import QualityGate.Proofs.FunctionInputs
import QualityGate.Proofs.IndentedBodies

/-!
# Lines without code among those with code

A line without code that is put into a source, and behind which the scanner goes on as it was, is seen by no part of the analysis: it
neither declares nor ends a function, decides nothing, and nests nothing, whether bodies are told by braces or by indentation. All
functions keep their names and values, in the same order, and move down where they stand behind the line
(`functionsOf_inserted`).
-/

namespace QualityGate

open Scan Toolchain

namespace Functions

/-! ## Blank code -/

section Blank

variable {code : List Char}

/-- A blank belongs to no word. -/
theorem not_isWordChar_of_isBlank {c : Char} (h : isBlank c = true) : isWordChar c = false := by
  by_contra hword
  rw [Bool.not_eq_false] at hword
  have hvisible : isBlank c = false := by
    simp only [isWordChar, Char.isAlphanum, Bool.or_eq_true, decide_eq_true_eq] at hword
    rcases hword with (hletter | hdigit) | rfl
    · exact not_isBlank_of_isAlpha hletter
    · have hrange : 48 ≤ c.toNat ∧ c.toNat ≤ 57 := by
        simpa [Char.isDigit, UInt32.le_iff_toNat_le] using hdigit
      simp only [isBlank, Bool.or_eq_false_iff, Bool.and_eq_false_iff, decide_eq_false_iff_not]
      omega
    · decide
  rw [h] at hvisible
  cases hvisible

/-- Blanks have no words. -/
theorem wordsOf_of_blank (h : ∀ c ∈ code, isBlank c = true) : wordsOf code = [] := by
  unfold wordsOf
  induction code with
  | nil => rfl
  | cons c rest ih =>
    rw [runsFrom, not_isWordChar_of_isBlank (h c List.mem_cons_self)]
    exact ih fun d hd => h d (List.mem_cons_of_mem c hd)

/-- Signs that do not begin with a blank do not stand among blanks. -/
theorem countSigns_of_blank {signs : List (Char × Char)} (hsigns : ∀ sign ∈ signs, isBlank sign.1 = false)
    (h : ∀ c ∈ code, isBlank c = true) : countSigns signs code = 0 := by
  induction code with
  | nil => rfl
  | cons a rest ih =>
    cases rest with
    | nil => rfl
    | cons b rest =>
      have hnone : signs.contains (a, b) = false := by
        rw [Bool.eq_false_iff]
        intro hmem
        have hvisible := hsigns _ (List.contains_iff_mem.mp hmem)
        rw [h a List.mem_cons_self] at hvisible
        cases hvisible
      rw [countSigns, hnone]
      exact ih fun d hd => h d (List.mem_cons_of_mem a hd)

theorem trimStart_of_blank (h : ∀ c ∈ code, isBlank c = true) : trimStart code = [] := List.dropWhile_eq_nil_iff.mpr h

/-- Blanks decide nothing. -/
theorem decisions_of_blank (t : Toolchain) (h : ∀ c ∈ code, isBlank c = true) : decisions t code = 0 := by
  have hwords : countWords (decisionWords t) code = 0 := by rw [countWords, wordsOf_of_blank h]; rfl
  have hsigns : countSigns (logicalSigns t) code = 0 := countSigns_of_blank (by cases t <;> decide +kernel) h
  have harms : armCount t code = 0 := by
    cases t with
    | rust => exact countSigns_of_blank (by decide) h
    | pythonUv =>
      rw [armCount, startsWithWord, trimStart_of_blank h]
      rfl
    | go | deno => rfl
  rw [decisions, hwords, hsigns, harms]

/-- Blanks have no structural signs. -/
theorem plain_of_blank (h : ∀ c ∈ code, isBlank c = true) : Plain code := by
  intro c hc hsign
  have hvisible : structuralSigns.all (!isBlank ·) = true := by decide
  have hshown := List.all_eq_true.mp hvisible c hsign
  rw [h c hc] at hshown
  cases hshown

end Blank

/-! ## Spans -/

section Idle

variable {t : Toolchain} {line : Line}

/-- A line without code holds blanks. -/
theorem blank_of_not_hasCode (h : line.hasCode = false) : ∀ c ∈ line.code, isBlank c = true := by
  intro c hc
  have hnone := List.any_eq_false.mp h c hc
  simpa using hnone

/-- A line without code declares nothing. -/
theorem declaredName?_of_not_hasCode (h : line.hasCode = false) : declaredName? t line.code = none := by
  rw [← Option.not_isSome_iff_eq_none]
  intro hsome
  obtain ⟨name, hname⟩ := Option.isSome_iff_exists.mp hsome
  rw [hasCode_of_declaredName? hname] at h
  cases h

/-- The end of an indented body below a place, for lines that are counted from further down. -/
theorem indentLength_succ {place seen : Nat} (hle : place ≤ seen) (base last : Nat) (lines : List Line) :
    indentLength base (moved place last) (seen + 1) lines = moved place (indentLength base last seen lines) := by
  induction lines generalizing last seen with
  | nil => rfl
  | cons first rest ih =>
    rw [indentLength, indentLength]
    split
    · exact ih (Nat.le_succ_of_le hle) last
    split
    · rfl
    · have hrest := ih (Nat.le_succ_of_le hle) seen
      rwa [moved_of_le hle] at hrest

/-- The search for the end of an indented body passes a line without code by. -/
theorem indentLength_inserted (h : line.hasCode = false) (above below : List Line) (base : Nat) {last seen : Nat} (hlt : last < seen) :
    indentLength base last seen (above ++ line :: below) =
      moved (seen + above.length) (indentLength base last seen (above ++ below)) := by
  induction above generalizing last seen with
  | nil =>
    rw [List.nil_append, List.nil_append, indentLength, h]
    have hsucc := indentLength_succ (Nat.le_refl seen) base last below
    rwa [moved_of_lt hlt] at hsucc
  | cons first above ih =>
    have hlength : seen + (first :: above).length = seen + 1 + above.length := by
      rw [List.length_cons, Nat.add_comm above.length, Nat.add_assoc]
    rw [List.cons_append, List.cons_append, indentLength, indentLength, hlength]
    split
    · exact ih (Nat.lt_succ_of_lt hlt)
    split
    · exact (moved_of_lt (by omega)).symm
    · exact ih (Nat.lt_succ_self seen)

/-- The functions from a line on are found alike when one line more is above them. -/
theorem indentSpansFrom_succ {place index : Nat} (hle : place ≤ index) (lines : List Line) :
    indentSpansFrom t (index + 1) lines = (indentSpansFrom t index lines).map (Span.moved place) := by
  induction lines generalizing index with
  | nil => rfl
  | cons first rest ih =>
    rw [indentSpansFrom, indentSpansFrom, List.map_append, ih (Nat.le_succ_of_le hle)]
    congr 1
    cases declaredName? t first.code with
    | none => rfl
    | some name =>
      have hstop := hle.trans (Nat.le_add_right index (indentLength first.indentation 0 1 rest))
      simp [Span.moved, moved_of_le hle, moved_of_le hstop, Nat.add_right_comm]

/-- A line without code moves the functions that indentation tells, and nothing else. -/
theorem indentSpansFrom_inserted (h : line.hasCode = false) (above below : List Line) (index : Nat) :
    indentSpansFrom t index (above ++ line :: below) =
      (indentSpansFrom t index (above ++ below)).map (Span.moved (index + above.length)) := by
  induction above generalizing index with
  | nil =>
    rw [List.nil_append, List.nil_append, indentSpansFrom, declaredName?_of_not_hasCode h]
    exact indentSpansFrom_succ (Nat.le_refl index) below
  | cons first above ih =>
    have hlength : index + (first :: above).length = index + 1 + above.length := by
      rw [List.length_cons, Nat.add_comm above.length, Nat.add_assoc]
    rw [List.cons_append, List.cons_append, indentSpansFrom, indentSpansFrom, List.map_append, ih, hlength]
    congr 1
    cases declaredName? t first.code with
    | none => rfl
    | some name =>
      have hstart : moved (index + 1 + above.length) index = index := moved_of_lt (by omega)
      simp only [Option.map_some, Option.toList_some, List.map_singleton, Span.moved, hstart,
        indentLength_inserted h above below first.indentation Nat.one_pos]
      rw [Nat.add_assoc index 1, moved_add]

/-- A line without code moves the spans and leaves them as they are otherwise. -/
theorem spans_inserted (h : line.hasCode = false) (above below : List Line) :
    spans t (above ++ line :: below) = (spans t (above ++ below)).map (Span.moved above.length) := by
  unfold spans
  split
  · rw [indentSpansFrom_inserted h, Nat.zero_add]
  · rw [List.map_append, List.map_append, List.map_cons, braceSpansFrom_inserted (plain_of_blank (blank_of_not_hasCode h))
      (declaredName?_of_not_hasCode h), Nat.zero_add, List.length_map]

/-! ## Nesting -/

/-- A line without code leaves each line its depth. -/
theorem indentNesting_inserted (h : line.hasCode = false) (open_ : List Nat) (above below : List Line) (i : Nat) :
    (indentNesting open_ (above ++ line :: below))[moved above.length i]? = (indentNesting open_ (above ++ below))[i]? := by
  induction above generalizing open_ i with
  | nil =>
    rw [List.nil_append, List.nil_append, indentNesting, h, List.length_nil, moved_of_le (Nat.zero_le i)]
    rfl
  | cons first above ih =>
    rw [List.cons_append, List.cons_append, indentNesting, indentNesting, List.length_cons]
    cases i with
    | zero =>
      rw [moved_of_lt (Nat.succ_pos _)]
      split <;> rfl
    | succ i =>
      rw [moved_succ]
      split
      · exact ih open_ i
      · exact ih _ i

/-- The depth of the first lines depends on nothing below them. -/
theorem indentNesting_take (open_ : List Nat) (lines : List Line) (n : Nat) :
    indentNesting open_ (lines.take n) = (indentNesting open_ lines).take n := by
  induction lines generalizing open_ n with
  | nil => rw [List.take_nil, indentNesting, List.take_nil]
  | cons first rest ih =>
    cases n with
    | zero => rfl
    | succ n =>
      rw [List.take_succ_cons, indentNesting, indentNesting]
      split
      · rw [List.take_succ_cons, ih]
      · rw [List.take_succ_cons]
        exact congrArg _ (ih _ n)

/-- With braces, a line is one level less deep than its braces are. -/
theorem nesting_of_braces (ht : t ≠ pythonUv) (lines : List Line) :
    nesting t lines = (depthsBefore 0 (lines.map (·.code))).map fun d => max 0 (d - 1) := by
  cases t with
  | pythonUv => exact absurd rfl ht
  | rust | go | deno => rfl

/-- How deeply a line is nested depends on no line behind it. -/
theorem nesting_take (lines : List Line) (n : Nat) : nesting t (lines.take n) = (nesting t lines).take n := by
  by_cases ht : t = pythonUv
  · subst ht
    cases lines with
    | nil =>
      have hnil : nesting pythonUv [] = [] := rfl
      rw [List.take_nil, hnil, List.take_nil]
    | cons first rest =>
      cases n with
      | zero => rfl
      | succ n => rw [List.take_succ_cons, nesting, nesting, List.take_succ_cons, indentNesting_take]
  · rw [nesting_of_braces ht, nesting_of_braces ht, List.map_take, depthsBefore_take, List.map_take]

/-- A line without code leaves the others as deeply nested as they are, in a span that begins above it. -/
theorem nesting_inserted (h : line.hasCode = false) {above : List Line} (hne : above ≠ []) (below : List Line) (i : Nat) :
    (nesting t (above ++ line :: below))[moved above.length i]? = (nesting t (above ++ below))[i]? := by
  have hdepths : (depthsBefore 0 ((above ++ line :: below).map (·.code)))[moved above.length i]? =
      (depthsBefore 0 ((above ++ below).map (·.code)))[i]? := by
    have hplain := depthsBefore_inserted (plain_of_blank (blank_of_not_hasCode h)) 0 (above.map (·.code)) (below.map (·.code)) i
    rwa [List.length_map, ← List.map_cons, ← List.map_append, ← List.map_append] at hplain
  by_cases ht : t = pythonUv
  · subst ht
    obtain ⟨first, above, rfl⟩ := List.exists_cons_of_ne_nil hne
    rw [List.cons_append, List.cons_append, nesting, nesting, List.length_cons]
    cases i with
    | zero =>
      rw [moved_of_lt (Nat.succ_pos _)]
      rfl
    | succ i =>
      rw [moved_succ]
      exact indentNesting_inserted h [] above below i
  · rw [nesting_of_braces ht, nesting_of_braces ht, List.getElem?_map, List.getElem?_map, hdepths]

/-- A line without code leaves the lines of a part their depths. -/
theorem nesting_drop_inserted (h : line.hasCode = false) (above below : List Line) {first index : Nat} (hle : first ≤ index) :
    (nesting t ((above ++ line :: below).drop (moved above.length first)))[moved above.length index - moved above.length first]? =
      (nesting t ((above ++ below).drop first))[index - first]? := by
  obtain ⟨n, rfl⟩ := Nat.exists_eq_add_of_le hle
  rcases Nat.lt_or_ge first above.length with hlt | hge
  · obtain ⟨m, hm⟩ := Nat.exists_eq_add_of_le hlt.le
    have hne : above.drop first ≠ [] := by
      rw [ne_eq, List.drop_eq_nil_iff]
      omega
    have hdrop := nesting_inserted (t := t) h hne below n
    rw [List.length_drop, hm, Nat.add_sub_cancel_left] at hdrop
    rw [moved_of_lt hlt, hm, moved_add, Nat.add_sub_cancel_left, Nat.add_sub_cancel_left, List.drop_append_of_le_length hlt.le,
      List.drop_append_of_le_length hlt.le, hdrop]
  · rw [moved_of_le hge, moved_of_le (hge.trans hle), Nat.add_sub_add_right]
    congr 2
    rw [List.drop_append, List.drop_append, List.drop_of_length_le hge, List.drop_of_length_le (Nat.le_succ_of_le hge),
      Nat.succ_sub hge]
    rfl

/-- A line without code leaves the lines of a function their depths. -/
theorem nesting_lines_inserted (h : line.hasCode = false) (above below : List Line) {span : Span} {index : Nat}
    (hstart : span.start ≤ index) (hstop : index ≤ span.stop) :
    (nesting t ((span.moved above.length).lines (above ++ line :: below)))[
        moved above.length index - (span.moved above.length).start]? =
      (nesting t (span.lines (above ++ below)))[index - span.start]? := by
  have hstart' : moved above.length span.start ≤ moved above.length index := moved_le_moved.mpr hstart
  have hstop' : moved above.length index ≤ moved above.length span.stop := moved_le_moved.mpr hstop
  simp only [Span.lines, Span.moved]
  rw [nesting_take, nesting_take, List.getElem?_take_of_lt (by omega), List.getElem?_take_of_lt (by omega)]
  exact nesting_drop_inserted h above below hstart

/-! ## Values -/

/-- A line without code adds no branches to a function. -/
theorem cyclomatic_idle (h : line.hasCode = false) (above below : List Line) (span : Span) (all : List Span) :
    cyclomatic t (above ++ line :: below) (span.moved above.length)
        (ownLines (span.moved above.length) (all.map (Span.moved above.length))) =
      cyclomatic t (above ++ below) span (ownLines span all) := by
  have hins : Inserted (above ++ below) (above ++ line :: below) (above.map (·.code)) line.code (below.map (·.code)) :=
    ⟨List.map_append, by rw [List.map_append, List.map_cons]⟩
  have hadded := cyclomatic_inserted (t := t) hins span all
  rw [decisions_of_blank t (blank_of_not_hasCode h), ite_self, Nat.add_zero, List.length_map] at hadded
  exact hadded

/-- A line without code has no score. -/
theorem scoreAt_place (h : line.hasCode = false) (above below : List Line) (span : Span) :
    scoreAt t (above ++ line :: below) span above.length = 0 := by
  have hline : (above ++ line :: below)[above.length]? = some line := by simp
  rw [scoreAt, hline]
  simp [h]

/-- A line without code leaves each line its score. -/
theorem scoreAt_idle (h : line.hasCode = false) (above below : List Line) {span : Span} {index : Nat}
    (hstart : span.start ≤ index) (hstop : index ≤ span.stop) :
    scoreAt t (above ++ line :: below) (span.moved above.length) (moved above.length index) =
      scoreAt t (above ++ below) span index := by
  rw [scoreAt, scoreAt, getElem?_moved, nesting_lines_inserted h above below hstart hstop]
  simp only [Span.moved, moved_inj]

/-- A line without code adds nothing to the weighted branches of a function. -/
theorem cognitive_idle (h : line.hasCode = false) (above below : List Line) (span : Span) (all : List Span) :
    cognitive t (above ++ line :: below) (span.moved above.length)
        (ownLines (span.moved above.length) (all.map (Span.moved above.length))) =
      cognitive t (above ++ below) span (ownLines span all) := by
  obtain ⟨before, behind, hown, hown'⟩ := exists_ownLines_moved above.length span all
  have hmoved : ∀ indices : List Nat, (∀ index ∈ indices, index ∈ ownLines span all) →
      (indices.map (moved above.length)).map (scoreAt t (above ++ line :: below) (span.moved above.length)) =
        indices.map (scoreAt t (above ++ below) span) := by
    intro indices hindices
    rw [List.map_map]
    refine List.map_congr_left fun index hindex => ?_
    obtain ⟨hstart, hstop⟩ := List.mem_range'_1.mp (List.mem_of_mem_filter (hindices index hindex))
    exact scoreAt_idle h above below hstart (by omega)
  have hnew : ∀ rest : List Int, (((if span.Receives all above.length then [above.length] else []).map
      (scoreAt t (above ++ line :: below) (span.moved above.length))) ++ rest).foldr Int.add 0 = rest.foldr Int.add 0 := by
    intro rest
    split
    · rw [List.map_singleton, scoreAt_place h, List.singleton_append, List.foldr_cons]
      exact Int.zero_add _
    · rfl
  rw [cognitive_eq, cognitive_eq, hown', hown, List.append_assoc, List.map_append, List.map_append, List.map_append,
    hmoved before fun index hindex => hown ▸ List.mem_append_left _ hindex,
    hmoved behind fun index hindex => hown ▸ List.mem_append_right _ hindex, List.foldr_append, hnew, ← List.foldr_append]

end Idle

end Functions

open Functions

/-- A function once a line has been put behind a number of lines. -/
def FunctionInfo.moved (place : Nat) (f : FunctionInfo) : FunctionInfo :=
  { f with line := Functions.moved (place + 1) f.line, endLine := Functions.moved (place + 1) f.endLine }

/-- A line without code among scanned lines moves the functions and leaves them as they are otherwise. -/
theorem analyzeFunctions_idle {t : Toolchain} {line : Line} (h : line.hasCode = false) (above below : List Line) :
    analyzeFunctions t (above ++ line :: below) =
      (analyzeFunctions t (above ++ below)).map (FunctionInfo.moved above.length) := by
  unfold analyzeFunctions
  dsimp only
  rw [spans_inserted h, List.map_map, List.map_map]
  refine List.map_congr_left fun span _ => ?_
  simp only [Function.comp, FunctionInfo.moved]
  rw [cyclomatic_idle h, cognitive_idle h, moved_succ, moved_succ]
  rfl

/-! ## Sources -/

/-- The functions of lines that are scanned from the start of a source. -/
def functionsOf (t : Toolchain) (texts : List (List Char)) : List FunctionInfo :=
  analyzeFunctions t (linesFrom t .code 1 texts)

/-- A line without code, behind which the scanner goes on as before it. -/
structure Idle (t : Toolchain) (mode : Mode) (text : List Char) : Prop where
  blank : ∀ c ∈ (steps t (start mode) text).code, isBlank c = true
  next : nextMode (steps t (start mode) text).mode = mode

section Sources

variable {t : Toolchain}

/-- A line without its number. -/
def Line.unnumbered (line : Line) : Line := { line with number := 0 }

theorem keepsInputs_unnumbered : KeepsInputs t Line.unnumbered := ⟨fun _ => rfl, fun _ _ => rfl⟩

/-- Lines are scanned alike however they are numbered. -/
theorem map_unnumbered_linesFrom (mode : Mode) (number number' : Nat) (texts : List (List Char)) :
    (linesFrom t mode number texts).map Line.unnumbered = (linesFrom t mode number' texts).map Line.unnumbered := by
  induction texts generalizing mode number number' with
  | nil => rfl
  | cons text rest ih =>
    rw [linesFrom, linesFrom, List.map_cons, List.map_cons, ih _ (number + 1) (number' + 1)]
    rfl

/-- An idle line that is put between lines of a source moves the functions behind it down by one. -/
theorem functionsOf_inserted {above below : List (List Char)} {text : List Char} (h : Idle t (modeFrom t .code above) text) :
    functionsOf t (above ++ text :: below) = (functionsOf t (above ++ below)).map (FunctionInfo.moved above.length) := by
  have hcode : ∀ number, ((steps t (start (modeFrom t .code above)) text).toLine number text).unnumbered.hasCode = false := by
    intro number
    simp only [Line.hasCode, Line.unnumbered, Cursor.toLine, List.any_reverse, List.any_eq_false]
    intro c hc
    simp [h.blank c hc]
  have hlength : ((linesFrom t .code 1 above).map Line.unnumbered).length = above.length := by
    rw [List.length_map, length_linesFrom]
  unfold functionsOf
  rw [← analyzeFunctions_map keepsInputs_unnumbered, ← analyzeFunctions_map keepsInputs_unnumbered (linesFrom t .code 1 (above ++ below)),
    linesFrom_append, linesFrom_append, linesFrom, List.map_append, List.map_append, List.map_cons, h.next,
    map_unnumbered_linesFrom (modeFrom t .code above) (1 + above.length + 1) (1 + above.length), analyzeFunctions_idle (hcode _), hlength]

end Sources

end QualityGate
