import Mathlib.Data.List.DropRight
import QualityGate.Text.Blank

/-!
# Lines and trailing blanks

A text is its lines joined, and lines without line feeds are the lines of the text that they join to. `trimEnd` takes away the
longest run of blanks at the end and nothing else.
-/

namespace QualityGate

/-! ## Lines -/

/-- Splitting where a test holds is the library's splitting. -/
theorem splitWhere_eq_splitOnP {α : Type} (p : α → Bool) (items : List α) : splitWhere p items = items.splitOnP p := by
  induction items with
  | nil => rfl
  | cons item rest ih =>
    obtain ⟨piece, pieces, h⟩ := List.exists_cons_of_ne_nil (List.splitOnP_ne_nil p rest)
    rw [splitWhere, ih, List.splitOnP_cons_eq_if_modifyHead, h]
    rfl

/-- A text is split at a separator as the library splits it. -/
theorem splitWhere_eq_splitOn (separator : Char) (text : List Char) : splitWhere (· = separator) text = text.splitOn separator := by
  rw [splitWhere_eq_splitOnP, List.splitOn_eq_splitOnP]
  congr 1

/-- Lines are split at line feeds as the library splits a list. -/
theorem splitLines_eq_splitOn (text : List Char) : splitLines text = text.splitOn '\n' := splitWhere_eq_splitOn '\n' text

/-- No piece between separators holds one. -/
theorem notMem_of_mem_splitOn {α : Type} [BEq α] [LawfulBEq α] {separator : α} {items piece : List α}
    (h : piece ∈ items.splitOn separator) : separator ∉ piece := by
  induction items generalizing piece with
  | nil =>
    obtain rfl : piece = [] := by simpa using h
    exact List.not_mem_nil
  | cons item items ih =>
    obtain ⟨first, others, hs⟩ := List.exists_cons_of_ne_nil (List.splitOn_ne_nil separator items)
    rw [hs] at ih
    rw [List.splitOn_cons_eq_if_modifyHead, hs] at h
    split at h
    · rcases List.mem_cons.mp h with rfl | h
      · exact List.not_mem_nil
      · exact ih h
    · rename_i hne
      rcases List.mem_cons.mp h with rfl | h
      · intro hmem
        rcases List.mem_cons.mp hmem with heq | hmem
        · exact hne (by simp [← heq])
        · exact ih List.mem_cons_self hmem
      · exact ih (List.mem_cons_of_mem _ h)

/-- No line holds a line feed. -/
theorem lineFeed_notMem_of_mem_splitLines {text line : List Char} (h : line ∈ splitLines text) : '\n' ∉ line := by
  rw [splitLines_eq_splitOn] at h
  exact notMem_of_mem_splitOn h

/-- Lines without line feeds are the lines of what they join to; no lines at all join like one empty line. -/
theorem splitLines_joinLines {lines : List (List Char)} (h : ∀ line ∈ lines, '\n' ∉ line) (hne : lines ≠ []) :
    splitLines (joinLines lines) = lines := by
  rw [splitLines_eq_splitOn]
  exact List.splitOn_intercalate '\n' h hne

/-- The lines of two texts with a line feed between them are the lines of the one and then the lines of the other. -/
theorem splitLines_append (text more : List Char) : splitLines (text ++ '\n' :: more) = splitLines text ++ splitLines more := by
  unfold splitLines
  rw [splitWhere_eq_splitOnP, splitWhere_eq_splitOnP, splitWhere_eq_splitOnP]
  exact List.splitOnP_append_cons text more (decide_eq_true rfl)

/-- A text without line feeds is one line. -/
theorem splitLines_of_notMem {line : List Char} (h : '\n' ∉ line) : splitLines line = [line] := by
  rw [splitLines_eq_splitOn]
  exact List.splitOn_eq_singleton h

/-- The lines of a text join to it. -/
theorem joinLines_splitLines (text : List Char) : joinLines (splitLines text) = text := by
  rw [splitLines_eq_splitOn]
  exact List.intercalate_splitOn '\n'

theorem joinLines_singleton (line : List Char) : joinLines [line] = line := List.intercalate_singleton

/-- A line joins with those behind it by a line feed. -/
theorem joinLines_cons (line : List Char) {lines : List (List Char)} (h : lines ≠ []) :
    joinLines (line :: lines) = line ++ '\n' :: joinLines lines := by
  unfold joinLines
  rw [List.intercalate_cons_of_ne_nil h, List.append_assoc, List.singleton_append]

/-- Two lists of lines, neither of them without lines, join with a line feed between them. -/
theorem joinLines_append {lines more : List (List Char)} (hne : lines ≠ []) (hmore : more ≠ []) :
    joinLines (lines ++ more) = joinLines lines ++ '\n' :: joinLines more := by
  induction lines with
  | nil => exact absurd rfl hne
  | cons line lines ih =>
    rw [List.cons_append, joinLines_cons line (List.append_ne_nil_of_right_ne_nil lines hmore)]
    cases lines with
    | nil => rw [List.nil_append, joinLines_singleton]
    | cons next lines =>
      rw [ih (List.cons_ne_nil _ _), joinLines_cons line (List.cons_ne_nil _ _), List.append_assoc, List.cons_append]

/-- The lines above one and those from it on. -/
theorem joinLines_append_cons (above : List (List Char)) (line : List Char) (below : List (List Char)) :
    joinLines (above ++ line :: below) = above.flatMap (· ++ ['\n']) ++ joinLines (line :: below) := by
  induction above with
  | nil => rfl
  | cons first above ih =>
    rw [List.cons_append, joinLines_cons first (by simp), ih]
    simp

/-- Part of the first line stands in front of the rest. -/
theorem joinLines_append_head (part line : List Char) (below : List (List Char)) :
    joinLines ((part ++ line) :: below) = part ++ joinLines (line :: below) := by
  cases below with
  | nil => rw [joinLines_singleton, joinLines_singleton]
  | cons next below => rw [joinLines_cons _ (List.cons_ne_nil _ _), joinLines_cons _ (List.cons_ne_nil _ _), List.append_assoc]

/-- The first of several lines begins what they join to. -/
theorem isPrefix_joinLines (line : List Char) (lines : List (List Char)) : line <+: joinLines (line :: lines) := by
  cases lines with
  | nil => exact (joinLines_singleton line).symm ▸ List.prefix_rfl
  | cons next lines =>
    rw [joinLines_cons line (List.cons_ne_nil _ _)]
    exact List.prefix_append _ _

/-- A line of a text stands at its start or behind a line feed. -/
theorem exists_of_mem_splitLines {text line : List Char} (h : line ∈ splitLines text) :
    (∃ rest, text = line ++ rest) ∨ ∃ start rest, text = start ++ '\n' :: (line ++ rest) := by
  obtain ⟨before, after, hlines⟩ := List.append_of_mem h
  have htext := joinLines_splitLines text
  rw [hlines] at htext
  obtain ⟨rest, hrest⟩ := isPrefix_joinLines line after
  cases before with
  | nil => exact .inl ⟨rest, htext.symm.trans hrest.symm⟩
  | cons first before =>
    rw [joinLines_append (List.cons_ne_nil _ _) (List.cons_ne_nil _ _), ← hrest] at htext
    exact .inr ⟨_, rest, htext.symm⟩

/-! ## Trailing blanks -/

/-- A text is what is left of it without its trailing blanks, and those blanks. -/
theorem exists_trimEnd_append (text : List Char) : ∃ blanks, text = trimEnd text ++ blanks ∧ ∀ c ∈ blanks, isBlank c = true :=
  ⟨text.rtakeWhile isBlank, List.rdropWhile_append_rtakeWhile.symm, fun _ hc => List.mem_rtakeWhile_imp hc⟩

theorem trimEnd_eq_nil_iff {text : List Char} : trimEnd text = [] ↔ ∀ c ∈ text, isBlank c = true :=
  List.rdropWhile_eq_nil_iff

/-- Blanks behind a text are trimmed. -/
theorem trimEnd_append_blanks (text : List Char) {blanks : List Char} (h : ∀ c ∈ blanks, isBlank c = true) :
    trimEnd (text ++ blanks) = trimEnd text := by
  induction blanks using List.reverseRecOn with
  | nil => rw [List.append_nil]
  | append_singleton blanks c ih =>
    have hc : isBlank c = true := h c (by simp)
    have hrest : ∀ d ∈ blanks, isBlank d = true := fun d hd => h d (by simp [hd])
    rw [← List.append_assoc]
    exact (List.rdropWhile_concat_pos isBlank (text ++ blanks) c hc).trans (ih hrest)

/-- A text that does not end with a blank has no trailing blanks. -/
theorem trimEnd_eq_self {text : List Char} (h : ∀ c ∈ text.getLast?, isBlank c = false) : trimEnd text = text := by
  refine List.rdropWhile_eq_self_iff.mpr fun hne hblank => ?_
  have hlast := h _ (List.getLast?_eq_some_getLast hne)
  rw [hlast] at hblank
  cases hblank

/-- A text that does not begin with a blank is left as it is. -/
theorem trimStart_eq_self {text : List Char} (h : ∀ c ∈ text.head?, isBlank c = false) : trimStart text = text := by
  cases text with
  | nil => rfl
  | cons c rest => exact List.dropWhile_cons_of_neg (by simpa using h c rfl)

/-- A text that neither begins nor ends with a blank is what is left of it and some blanks without the blanks around. -/
theorem trim_append_blanks {text blanks : List Char} (hne : text ≠ []) (hhead : ∀ c ∈ text.head?, isBlank c = false)
    (hlast : ∀ c ∈ text.getLast?, isBlank c = false) (h : ∀ c ∈ blanks, isBlank c = true) : trim (text ++ blanks) = text := by
  have hstart : trimStart (text ++ blanks) = text ++ blanks := trimStart_eq_self (by rwa [List.head?_append_of_ne_nil _ hne])
  unfold trim
  rw [hstart, trimEnd_append_blanks _ h, trimEnd_eq_self hlast]

/-- What is left without trailing blanks is part of the text. -/
theorem trimEnd_isPrefix (text : List Char) : trimEnd text <+: text := List.rdropWhile_prefix isBlank text

/-- What ends visibly stays in front of what is cut off the end. -/
theorem isPrefix_trimEnd {text : List Char} (h : ∀ c ∈ text.getLast?, isBlank c = false) (more : List Char) :
    text <+: trimEnd (text ++ more) := by
  obtain ⟨blanks, hblanks, hblank⟩ := exists_trimEnd_append (text ++ more)
  generalize trimEnd (text ++ more) = left at hblanks
  rcases List.prefix_or_prefix_of_prefix (List.prefix_append text more) ⟨blanks, hblanks.symm⟩ with hshort | ⟨cut, rfl⟩
  · exact hshort
  · rw [List.append_assoc] at hblanks
    have hmore : cut ++ more = blanks := List.append_cancel_left hblanks
    cases hlast : cut.getLast? with
    | none =>
      have hcut : cut = [] := List.getLast?_eq_none_iff.mp hlast
      exact ⟨[], by rw [hcut, List.append_nil, List.append_nil]⟩
    | some c =>
      have hvisible := h c (by rw [List.getLast?_append, hlast]; rfl)
      rw [hblank c (hmore ▸ List.mem_append_left _ (List.mem_of_getLast? hlast))] at hvisible
      cases hvisible

/-- What is left of a text that does not begin with a blank, without the blanks around it, begins the text. -/
theorem trim_isPrefix {text : List Char} (hhead : ∀ c ∈ text.head?, isBlank c = false) : trim text <+: text := by
  unfold trim
  rw [trimStart_eq_self hhead]
  exact trimEnd_isPrefix text

end QualityGate
