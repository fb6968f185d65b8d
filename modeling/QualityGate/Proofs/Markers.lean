import QualityGate.Proofs.Matching
import QualityGate.Source.Satd

/-!
# What a marker is

A comment is marked if one of the marker words stands in it (`exists_word_of_isMarked`). The item of a line and its edit go by the same
question: a line has an item exactly if its comment is marked (`isSome_itemOf?`). A character that is no part of a word may stand
before a marked text.
-/

namespace QualityGate.Satd

open Pattern

/-- The word of a marker that is found stands in the text and is what the match tells. -/
theorem exists_word_of_find {text : List Char} {m : Found} (h : markerPattern.find text = some m) :
    ∃ entry ∈ markers, entry.1.toList <:+: text ∧ m.group 1 = some entry.1.toList := by
  obtain ⟨hsuffix, hway⟩ := exists_matches_of_foundFrom h
  cases hway with
  | seq hedge hway =>
  cases hedge
  cases hway with
  | seq hword hrest =>
  have hgroups := hrest.groups_eq rfl
  cases hword with
  | group hword =>
  obtain ⟨word, hmem, hlit⟩ := hword.of_words
  obtain ⟨hafter, hbefore, rfl⟩ := hlit.of_lit
  obtain ⟨entry, hentry, rfl⟩ := List.mem_map.mp hmem
  refine ⟨entry, hentry, ?_, ?_⟩
  · exact (hafter ▸ List.prefix_append _ _ : entry.1.toList <+: m.start.after).isInfix.trans hsuffix.isInfix
  · rw [Found.group, hgroups]
    simp [Spot.textUpTo, hbefore]

theorem exists_word_of_isMarked {text : List Char} (h : isMarked text = true) : ∃ entry ∈ markers, entry.1.toList <:+: text := by
  obtain ⟨m, hm⟩ := Option.isSome_iff_exists.mp h
  obtain ⟨entry, hentry, hinfix, -⟩ := exists_word_of_find hm
  exact ⟨entry, hentry, hinfix⟩

theorem lookup_of_mem_markers : ∀ entry ∈ markers, markers.lookup entry.1 = some entry.2 := by decide

/-- A marked text has a marker of the list. -/
theorem isSome_bind_marker? (text : List Char) : ((marker? text).bind fun marker => markers.lookup marker).isSome = isMarked text := by
  unfold marker? isMarked occurs
  cases hfind : markerPattern.find text with
  | none => rfl
  | some m =>
    obtain ⟨entry, hentry, -, hgroup⟩ := exists_word_of_find hfind
    simp [hgroup, lookup_of_mem_markers entry hentry]

/-- A line has an item exactly if its comment is marked. -/
theorem isSome_itemOf? (file : String) (line : Line) : (itemOf? file line).isSome = line.comment.any isMarked := by
  unfold itemOf?
  cases line.comment with
  | none => rfl
  | some comment =>
    rw [Option.any_some, ← isSome_bind_marker?]
    simp only [Option.bind_eq_bind, Option.bind_some]
    cases marker? comment with
    | none => rfl
    | some marker =>
      simp only [Option.bind_some]
      cases List.lookup marker markers <;> rfl

/-- A marker is found behind a character that is no part of a word. -/
theorem isMarked_cons {c : Char} {text : List Char} (hc : isWordChar c = false) (h : isMarked text = true) :
    isMarked (c :: text) = true :=
  EdgeOnly.occurs_cons (edgeOnly_seq (by decide)) hc h

end QualityGate.Satd
