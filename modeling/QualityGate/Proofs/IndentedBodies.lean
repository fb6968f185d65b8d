import Mathlib.Data.Nat.Find
import QualityGate.Proofs.FunctionEnds
import QualityGate.Proofs.Matching

/-!
# Where indented bodies end

The span of a function without braces is read off the indentation of its lines: it ends in front of the first line of code that is
indented no deeper than its declaration (`endsByIndentation_of_declaredName?`). Whether that line starts a statement is not asked.
The span ends with the body exactly if it does (`lastBefore_iff_next_starts`): the last lines of a signature, or of a text that goes
on over several lines, may stand as far to the left and start nothing.
-/

namespace QualityGate

open Scan Toolchain

namespace Functions

open Pattern

/-! ## Declarations have code -/

/-- A letter is no blank. -/
theorem not_isBlank_of_isAlpha {c : Char} (h : c.isAlpha = true) : isBlank c = false := by
  have hrange : (65 ≤ c.toNat ∧ c.toNat ≤ 90) ∨ (97 ≤ c.toNat ∧ c.toNat ≤ 122) := by
    unfold Char.isAlpha Char.isUpper Char.isLower at h
    simpa [UInt32.le_iff_toNat_le] using h
  simp only [isBlank, Bool.or_eq_false_iff, Bool.and_eq_false_iff, decide_eq_false_iff_not]
  omega

/-- The patterns that declare functions have letters in them. -/
theorem visible_of_mem_patterns {t : Toolchain} {p : Pattern} (h : p ∈ patterns t) : Visible p := by
  cases t with
  | rust =>
    obtain rfl := List.mem_singleton.mp h
    exact (visible_lit (by decide)).first.second
  | go =>
    obtain rfl := List.mem_singleton.mp h
    exact (visible_lit (by decide)).first.second.second
  | pythonUv =>
    obtain rfl := List.mem_singleton.mp h
    exact (visible_lit (by decide)).first.second.second.second
  | deno =>
    have hname : Visible dollarIdentifier := by
      refine (visible_one fun c hc => ?_).first
      simp only [Bool.or_eq_true, decide_eq_true_eq] at hc
      rcases hc with (hletter | rfl) | rfl
      · exact not_isBlank_of_isAlpha hletter
      · decide
      · decide
    simp only [patterns, List.mem_cons, List.not_mem_nil, or_false] at h
    rcases h with rfl | rfl | rfl
    · exact (visible_lit (by decide)).first.second
    · exact (visible_words (by decide)).first.second
    · exact hname.group.first.second.second.second

/-- A line that declares a function has code on it. -/
theorem hasCode_of_declaredName? {t : Toolchain} {line : Line} {name : List Char} (h : declaredName? t line.code = some name) :
    line.hasCode = true := by
  obtain ⟨p, hp, h⟩ := List.exists_of_findSome?_eq_some h
  obtain ⟨m, hm, -⟩ := Option.bind_eq_some_iff.mp (Option.filter_eq_some_iff.mp h).1
  obtain ⟨c, hc, hvisible⟩ := (visible_of_mem_patterns hp).of_find hm
  exact List.any_eq_true.mpr ⟨c, hc, by rw [hvisible]; rfl⟩

/-! ## The end that indentation gives -/

/-- Whether a line has code on it. -/
def codeAt (lines : List Line) (index : Nat) : Bool := lines[index]?.any (·.hasCode)

/-- Whether a line has code on it and is indented no deeper than the line of a declaration. -/
def outdentedAt (lines : List Line) (first index : Nat) : Bool :=
  lines[index]?.any fun line => line.hasCode && lines[first]?.any fun declaring => line.indentation ≤ declaring.indentation

/-- The next line with code behind a line. -/
structure NextCode (lines : List Line) (last index : Nat) : Prop where
  later : last < index
  code : codeAt lines index = true
  between : ∀ i, last < i → i < index → codeAt lines i = false

/-- Where code follows, there is a next line with code. -/
theorem exists_nextCode {lines : List Line} {last index : Nat} (hlater : last < index) (hcode : codeAt lines index = true) :
    ∃ next, NextCode lines last next ∧ next ≤ index := by
  have hsome : ∃ i, last < i ∧ codeAt lines i = true := ⟨index, hlater, hcode⟩
  refine ⟨Nat.find hsome, ⟨(Nat.find_spec hsome).1, (Nat.find_spec hsome).2, ?_⟩, Nat.find_min' hsome ⟨hlater, hcode⟩⟩
  intro i hi hlt
  have hmin := Nat.find_min hsome hlt
  simpa [hi] using hmin

/-- Lines below a declaration fall into the body, lines without code, and what begins with the next code that is not indented
deeper. -/
theorem exists_of_indentLength (base last seen : Nat) (lines : List Line) :
    ∃ body blank behind, lines = body ++ (blank ++ behind) ∧
      indentLength base last seen lines = (if body = [] then last else seen + body.length - 1) ∧
      (∀ line ∈ body.getLast?, line.hasCode = true) ∧ (∀ line ∈ body, line.hasCode = true → base < line.indentation) ∧
      (∀ line ∈ blank, line.hasCode = false) ∧ ∀ line ∈ behind.head?, line.hasCode = true ∧ line.indentation ≤ base := by
  induction lines generalizing last seen with
  | nil => exact ⟨[], [], [], rfl, rfl, by simp, by simp, by simp, by simp⟩
  | cons line rest ih =>
    rw [indentLength]
    by_cases hcode : line.hasCode = true
    · by_cases hshallow : line.indentation ≤ base
      · refine ⟨[], [], line :: rest, rfl, ?_, by simp, by simp, by simp, by simp [hcode, hshallow]⟩
        simp [hcode, hshallow]
      · obtain ⟨body, blank, behind, rfl, hlength, hlast, hdeeper, hblank, hbehind⟩ := ih seen (seen + 1)
        refine ⟨line :: body, blank, behind, rfl, ?_, ?_, ?_, hblank, hbehind⟩
        · simp only [hcode, hshallow, hlength, Bool.not_true, Bool.false_eq_true, if_false, List.cons_ne_nil, List.length_cons]
          split
          · simp [‹body = []›]
          · omega
        · cases body with
          | nil => simpa using hcode
          | cons => simpa using hlast
        · simpa [hcode, Nat.not_le.mp hshallow] using hdeeper
    · rw [Bool.not_eq_true] at hcode
      obtain ⟨body, blank, behind, rfl, hlength, hlast, hdeeper, hblank, hbehind⟩ := ih last (seen + 1)
      cases body with
      | nil =>
        refine ⟨[], line :: blank, behind, rfl, ?_, by simp, by simp, by simpa [hcode] using hblank, hbehind⟩
        simpa [hcode] using hlength
      | cons first body =>
        refine ⟨line :: first :: body, blank, behind, rfl, ?_, by simpa using hlast, ?_, hblank, hbehind⟩
        · simp only [hcode, hlength, Bool.not_false, if_true, List.cons_ne_nil, if_false, List.length_cons]
          omega
        · simpa [hcode] using hdeeper

/-- What is so of every span by indentation: its last line has code, the code inside is indented deeper than the declaration, and
the next code behind it is not. -/
structure EndsByIndentation (lines : List Line) (first last : Nat) : Prop where
  order : first ≤ last
  code : codeAt lines last = true
  inside : ∀ i, first < i → i ≤ last → outdentedAt lines first i = false
  behind : ∀ i, NextCode lines last i → outdentedAt lines first i = true

section Below

variable (above : List Line) (line : Line) (below : List Line)

theorem getElem?_below (k : Nat) : (above ++ line :: below)[above.length + (k + 1)]? = below[k]? := by
  rw [List.getElem?_append_right (Nat.le_add_right _ _), Nat.add_sub_cancel_left, List.getElem?_cons_succ]

theorem codeAt_below (k : Nat) : codeAt (above ++ line :: below) (above.length + (k + 1)) = below[k]?.any (·.hasCode) := by
  rw [codeAt, getElem?_below]

/-- A line below is compared with the line above by its indentation. -/
theorem outdentedAt_below (k : Nat) : outdentedAt (above ++ line :: below) above.length (above.length + (k + 1)) =
    below[k]?.any fun line' => line'.hasCode && line'.indentation ≤ line.indentation := by
  rw [outdentedAt, getElem?_below]
  simp

end Below

/-- The body of a declaration ends by indentation where it is found to end. -/
theorem endsByIndentation_of_declaredName? {above rest : List Line} {line : Line} {name : List Char}
    (h : declaredName? pythonUv line.code = some name) :
    EndsByIndentation (above ++ line :: rest) above.length (above.length + indentLength line.indentation 0 1 rest) := by
  obtain ⟨body, blank, behind, rfl, hlength, hlast, hdeeper, hblank, hbehind⟩ := exists_of_indentLength line.indentation 0 1 rest
  replace hlength : indentLength line.indentation 0 1 (body ++ (blank ++ behind)) = body.length := by
    rw [hlength]
    split
    · simp [‹body = []›]
    · omega
  rw [hlength]
  refine ⟨Nat.le_add_right _ _, ?_, ?_, ?_⟩
  · rcases List.eq_nil_or_concat body with rfl | ⟨init, last, rfl⟩
    · simp [codeAt, hasCode_of_declaredName? h]
    · rw [List.concat_eq_append, List.length_append, List.length_singleton, codeAt_below]
      simpa using hlast
  · intro i hfirst hi
    obtain ⟨k, rfl⟩ := Nat.exists_eq_add_of_lt hfirst
    have hk : k < body.length := by omega
    rw [Nat.add_assoc, outdentedAt_below, List.getElem?_append_left hk, List.getElem?_eq_getElem hk]
    have hline := hdeeper body[k] (List.getElem_mem hk)
    simpa using hline
  · rintro i ⟨hlater, hcode, hbetween⟩
    obtain ⟨k, rfl⟩ := Nat.exists_eq_add_of_lt hlater
    have hat : ∀ j, (body ++ (blank ++ behind))[body.length + j]? = (blank ++ behind)[j]? := fun j => by
      rw [List.getElem?_append_right (Nat.le_add_right _ _), Nat.add_sub_cancel_left]
    rw [Nat.add_assoc, Nat.add_assoc, ← Nat.add_assoc body.length] at hcode ⊢
    rw [codeAt_below, hat] at hcode
    rw [outdentedAt_below, hat]
    rcases Nat.lt_or_ge k blank.length with hk | hk
    · rw [List.getElem?_append_left hk, List.getElem?_eq_getElem hk] at hcode
      simp [hblank blank[k] (List.getElem_mem hk)] at hcode
    cases behind with
    | nil => simp [hk] at hcode
    | cons next behind =>
      obtain ⟨hnext, hshallow⟩ := hbehind next rfl
      rcases Nat.eq_or_lt_of_le hk with rfl | hlt
      · simp [hnext, hshallow]
      · have hearlier := hbetween (above.length + (body.length + blank.length + 1)) (by omega) (by omega)
        rw [codeAt_below, hat] at hearlier
        simp [hnext] at hearlier

/-! ## Statements -/

/-- The brackets that are open behind a character. -/
def bracketsAfter (open_ : Nat) (c : Char) : Nat :=
  if c = '(' || c = '[' || c = '\x7b' then open_ + 1 else if c = ')' || c = ']' || c = '\x7d' then open_ - 1 else open_

/-- The brackets that some lines of code open and do not close. -/
def openBrackets (codes : List (List Char)) : Nat := codes.flatten.foldl bracketsAfter 0

/-- A line starts a statement: the scanner is in code at its start, and the brackets opened since the line of a declaration are
closed. -/
structure StartsStatement (content : List Char) (first index : Nat) : Prop where
  inCode : modeFrom pythonUv .code ((splitLines content).take index) = .code
  closed : openBrackets ((((scan pythonUv content).take index).drop first).map (·.code)) = 0

/-- A line ends the body of a declaration: it starts a statement and is indented no deeper. -/
structure EndsBody (content : List Char) (first index : Nat) : Prop where
  outdented : outdentedAt (scan pythonUv content) first index = true
  starts : StartsStatement content first index

/-- A line is the last one with code before the first of those that end a body, or the last one with code if none does. -/
structure LastBefore (lines : List Line) (ends : Nat → Prop) (first last : Nat) : Prop where
  order : first ≤ last
  code : codeAt lines last = true
  inside : ∀ i, first < i → i ≤ last → ¬ends i
  behind : ∀ i, last < i → codeAt lines i = true → ∃ j, first < j ∧ j ≤ i ∧ ends j

/-- A line that is indented no deeper has code on it. -/
theorem codeAt_of_outdentedAt {lines : List Line} {first index : Nat} (h : outdentedAt lines first index = true) :
    codeAt lines index = true := by
  unfold outdentedAt at h
  unfold codeAt
  cases hline : lines[index]? with
  | none => simp [hline] at h
  | some line =>
    simp only [hline, Option.any_some, Bool.and_eq_true] at h ⊢
    exact h.1

/-- Indentation finds the end of a body exactly if the next code behind it starts a statement. -/
theorem EndsByIndentation.lastBefore_iff {content : List Char} {first last : Nat}
    (h : EndsByIndentation (scan pythonUv content) first last) :
    LastBefore (scan pythonUv content) (EndsBody content first) first last ↔
      ∀ i, NextCode (scan pythonUv content) last i → StartsStatement content first i := by
  constructor
  · intro hlast i hnext
    obtain ⟨j, hj, hle, hends⟩ := hlast.behind i hnext.later hnext.code
    have hlater : last < j := Nat.lt_of_not_le fun hle => hlast.inside j hj hle hends
    rcases Nat.lt_or_eq_of_le hle with hlt | rfl
    · have hnone := hnext.between j hlater hlt
      rw [codeAt_of_outdentedAt hends.outdented] at hnone
      cases hnone
    · exact hends.starts
  · intro hstarts
    refine ⟨h.order, h.code, ?_, ?_⟩
    · intro i hi hle hends
      have hdeeper := h.inside i hi hle
      rw [hends.outdented] at hdeeper
      cases hdeeper
    · intro i hi hcode
      obtain ⟨next, hnext, hle⟩ := exists_nextCode hi hcode
      exact ⟨next, Nat.lt_of_le_of_lt h.order hnext.later, hle, h.behind next hnext, hstarts next hnext⟩

/-- A function that is found has its declaration on a line of the source. -/
theorem exists_of_mem_indentSpansFrom {t : Toolchain} {index : Nat} {lines : List Line} {span : Span}
    (h : span ∈ indentSpansFrom t index lines) :
    ∃ above line below, lines = above ++ line :: below ∧ declaredName? t line.code = some span.name ∧
      span.start = index + above.length ∧ span.stop = span.start + indentLength line.indentation 0 1 below := by
  induction lines generalizing index with
  | nil => cases h
  | cons line rest ih =>
    rw [indentSpansFrom] at h
    rcases List.mem_append.mp h with h | h
    · obtain ⟨name, hname, rfl⟩ := Option.map_eq_some_iff.mp (Option.mem_toList.mp h)
      exact ⟨[], line, rest, rfl, hname, rfl, rfl⟩
    · obtain ⟨above, line', below, rfl, hname, hstart, hstop⟩ := ih h
      refine ⟨line :: above, line', below, rfl, hname, ?_, hstop⟩
      rw [hstart, List.length_cons]
      omega

end Functions

open Functions

/-- A function is reported to end where its body does exactly if the next code behind the reported end starts a statement. -/
theorem lastBefore_iff_next_starts {content : List Char} {f : FunctionInfo} (hf : f ∈ analyzeFunctions pythonUv (scan pythonUv content)) :
    LastBefore (scan pythonUv content) (EndsBody content (f.line - 1)) (f.line - 1) (f.endLine - 1) ↔
      ∀ i, NextCode (scan pythonUv content) (f.endLine - 1) i → StartsStatement content (f.line - 1) i := by
  obtain ⟨span, hspan, rfl⟩ := List.mem_map.mp hf
  rw [spans, if_pos rfl] at hspan
  obtain ⟨above, line, below, hlines, hname, hstart, hstop⟩ := exists_of_mem_indentSpansFrom hspan
  refine EndsByIndentation.lastBefore_iff ?_
  have hends : EndsByIndentation (above ++ line :: below) above.length _ := endsByIndentation_of_declaredName? hname
  rw [← hlines] at hends
  dsimp only
  rwa [Nat.add_sub_cancel, Nat.add_sub_cancel, hstop, hstart, Nat.zero_add]

namespace OtherFunction

def content : List Char := "def check(x, y):\n    if x and y:\n        return 1\n    return 0\n\ndef other():\n    pass".toList

end OtherFunction

open OtherFunction in
/-- A function with another one behind it ends where its body does. -/
theorem otherFunction_ends_body :
    (⟨"check", 1, 4, 3, 2⟩ : FunctionInfo) ∈ analyzeFunctions pythonUv (scan pythonUv content) ∧
      LastBefore (scan pythonUv content) (EndsBody content 0) 0 3 := by
  have hf : (⟨"check", 1, 4, 3, 2⟩ : FunctionInfo) ∈ analyzeFunctions pythonUv (scan pythonUv content) := by decide +kernel
  have hnext : codeAt (scan pythonUv content) 5 = true := by decide +kernel
  refine ⟨hf, (lastBefore_iff_next_starts hf).mpr ?_⟩
  rintro i ⟨hlater, hcode, hbetween⟩
  obtain rfl | rfl | hlt : i = 4 ∨ i = 5 ∨ 5 < i := by
    change 4 - 1 < i at hlater
    omega
  · exact absurd hcode (by decide +kernel)
  · exact ⟨by decide +kernel, by decide +kernel⟩
  · have hnone := hbetween 5 (by decide) hlt
    rw [hnext] at hnone
    cases hnone

namespace SplitSignature

def content : List Char := "def total(\n    a,\n):\n    if a:\n        return 1\n    return 2".toList

/-- The same function with its parameters on one line. -/
def oneLine : List Char := "def total(a):\n    if a:\n        return 1\n    return 2".toList

end SplitSignature

open SplitSignature in
/-- A signature over several lines ends the function in front of its last line, so the decision in the body is left out. -/
theorem splitSignature_ends_early :
    analyzeFunctions pythonUv (scan pythonUv content) = [⟨"total", 1, 2, 1, 0⟩] ∧
      ¬LastBefore (scan pythonUv content) (EndsBody content 0) 0 1 ∧
      LastBefore (scan pythonUv content) (EndsBody content 0) 0 5 ∧
      analyzeFunctions pythonUv (scan pythonUv oneLine) = [⟨"total", 1, 4, 2, 2⟩] := by
  have hlength : (scan pythonUv content).length = 6 := by decide +kernel
  have hcontinued : ¬StartsStatement content 0 2 := fun h => absurd h.closed (by decide +kernel)
  have hdeeper : ∀ i ≤ 5, i ≠ 0 → i ≠ 2 → outdentedAt (scan pythonUv content) 0 i = false := by decide +kernel
  have hinside : ∀ i, 0 < i → i ≤ 5 → ¬EndsBody content 0 i := by
    intro i hi hle hends
    by_cases htwo : i = 2
    · exact hcontinued (htwo ▸ hends.starts)
    · have hnone := hdeeper i hle hi.ne' htwo
      rw [hends.outdented] at hnone
      cases hnone
  refine ⟨by decide +kernel, ?_, ⟨by decide, by decide +kernel, hinside, ?_⟩, by decide +kernel⟩
  · intro hlast
    obtain ⟨j, hj, hle, hends⟩ := hlast.behind 2 (by decide) (by decide +kernel)
    exact hinside j hj (by omega) hends
  · intro i hi hcode
    rw [codeAt, List.getElem?_eq_none (by omega)] at hcode
    cases hcode

end QualityGate
