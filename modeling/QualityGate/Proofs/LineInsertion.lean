import Mathlib.Data.List.Forall2
import QualityGate.Proofs.Lines
import QualityGate.Proofs.Scanning
import QualityGate.Source.Functions

/-!
# A line put into a source

A line that declares nothing and holds no brace, grouping or semicolon is put between two lines of a source, where the scanner is in
code. The search for the end of a body passes it by, so every function keeps its name and its lines, those behind the place moved
down by one (`braceSpansFrom_inserted`). The line belongs to the functions around it whose inner functions are elsewhere
(`Span.Receives`), and its decisions are added to theirs (`cyclomatic_inserted`); the other functions keep their values.
-/

namespace QualityGate

open Scan Toolchain

namespace Functions

/-! ## Places -/

/-- Where a line stands once another has been put before line `place`. -/
def moved (place index : Nat) : Nat := if place ≤ index then index + 1 else index

section Places

variable {place i j : Nat}

theorem moved_of_le (h : place ≤ i) : moved place i = i + 1 := if_pos h

theorem moved_of_lt (h : i < place) : moved place i = i := if_neg (Nat.not_le.mpr h)

/-- The order of places stays. -/
theorem moved_le_moved : moved place i ≤ moved place j ↔ i ≤ j := by
  unfold moved
  split <;> split <;> omega

theorem moved_lt_moved : moved place i < moved place j ↔ i < j := by
  rw [← Nat.not_le, ← Nat.not_le, moved_le_moved]

theorem moved_inj : moved place i = moved place j ↔ i = j := by
  rw [Nat.le_antisymm_iff, Nat.le_antisymm_iff, moved_le_moved, moved_le_moved]

/-- What is at the place or above it afterwards was above it. -/
theorem moved_le_place : moved place i ≤ place ↔ i < place := by
  unfold moved
  split <;> omega

/-- What is at the place or below it afterwards was so before. -/
theorem place_le_moved : place ≤ moved place i ↔ place ≤ i := by
  unfold moved
  split <;> omega

/-- Places count from any base. -/
theorem moved_add (base : Nat) : moved (base + place) (base + i) = base + moved place i := by
  unfold moved
  split <;> split <;> omega

/-- One line more above the place moves everything down by one. -/
theorem moved_succ : moved (place + 1) (i + 1) = moved place i + 1 := by
  unfold moved
  split <;> split <;> omega

/-- What stood in a list stands where it has been moved to. -/
theorem getElem?_moved {α : Type} (above : List α) (item : α) (below : List α) (i : Nat) :
    (above ++ item :: below)[moved above.length i]? = (above ++ below)[i]? := by
  rcases Nat.lt_or_ge i above.length with hlt | hge
  · rw [moved_of_lt hlt, List.getElem?_append_left hlt, List.getElem?_append_left hlt]
  · rw [moved_of_le hge, List.getElem?_append_right (Nat.le_succ_of_le hge), List.getElem?_append_right hge, Nat.succ_sub hge]
    rfl

theorem map_moved_of_lt {indices : List Nat} (h : ∀ i ∈ indices, i < place) : indices.map (moved place) = indices :=
  (List.map_congr_left fun i hi => moved_of_lt (h i hi)).trans (List.map_id indices)

/-- A row of places below the insertion moves as a whole. -/
theorem map_moved_range' (h : place ≤ i) (length : Nat) :
    (List.range' i length).map (moved place) = List.range' (i + 1) length := by
  rw [Nat.add_comm i 1, ← List.map_add_range']
  refine List.map_congr_left fun j hj => ?_
  rw [moved_of_le (h.trans (List.mem_range'_1.mp hj).1), Nat.add_comm]

end Places

/-! ## Spans -/

/-- The signs that open and close bodies and groupings, and the one that ends a declaration. -/
def structuralSigns : List Char := ['\x7b', '\x7d', '(', ')', '[', ']', ';']

/-- A line of code without any of these signs. -/
def Plain (code : List Char) : Prop := ∀ c ∈ code, c ∉ structuralSigns

instance (code : List Char) : Decidable (Plain code) := List.decidableBAll (· ∉ structuralSigns) code

/-- A span once a line has been put before line `place`. -/
def Span.moved (place : Nat) (s : Span) : Span := ⟨s.name, Functions.moved place s.start, Functions.moved place s.stop⟩

section Spans

variable {t : Toolchain} {code : List Char}

/-- A character that is no structural sign changes nothing in the search for the end of a body. -/
theorem braceStep_of_plain {c : Char} (h : c ∉ structuralSigns) (s : BraceState) : braceStep s c = .goOn s := by
  simp only [structuralSigns, List.mem_cons, List.not_mem_nil, or_false, not_or] at h
  obtain ⟨hopen, hclose, hparen, hparen', hbracket, hbracket', hsemicolon⟩ := h
  simp [braceStep, hopen, hclose, hparen, hparen', hbracket, hbracket', hsemicolon]

/-- Plain code changes nothing in the search for the end of a body. -/
theorem braceSteps_of_plain (h : Plain code) (s : BraceState) : braceSteps s code = .goOn s := by
  induction code with
  | nil => rfl
  | cons c rest ih =>
    rw [braceSteps, braceStep_of_plain (h c List.mem_cons_self)]
    exact ih fun d hd => h d (List.mem_cons_of_mem c hd)

/-- The search for the end of a body passes a plain line by. -/
theorem closingLine?_inserted (h : Plain code) (above below : List (List Char)) (s : BraceState) :
    closingLine? s (above ++ code :: below) = (closingLine? s (above ++ below)).map (moved above.length) := by
  -- on the lines above the place, each of which the two searches read alike
  induction above generalizing s with
  | nil =>
    rw [List.nil_append, List.nil_append, closingLine?, braceSteps_of_plain h]
    rfl
  | cons first above ih =>
    rw [List.cons_append, List.cons_append, closingLine?, closingLine?]
    cases braceSteps s first with
    | goOn s' =>
      dsimp only
      rw [ih, Option.map_map, Option.map_map]
      exact congrArg (Option.map · _) (funext fun _ => moved_succ.symm)
    | closed => rfl
    | bodiless => rfl

/-- A function has a name in its first line and an end where its braces close. -/
theorem braceSpan?_eq (index : Nat) (first : List Char) (rest : List (List Char)) :
    braceSpan? t index first rest = (declaredName? t first).bind fun name =>
      (closingLine? ⟨0, 0, false⟩ (fromName name first :: rest)).map fun length => ⟨name, index, index + length⟩ := by
  rw [braceSpan?]
  simp only [Option.map_eq_bind]
  rfl

/-- A plain line somewhere below a declaration moves the end of the body. -/
theorem braceSpan?_inserted (h : Plain code) (index : Nat) (first : List Char)
    (above below : List (List Char)) : braceSpan? t index first (above ++ code :: below) =
      (braceSpan? t index first (above ++ below)).map (Span.moved (index + (above.length + 1))) := by
  rw [braceSpan?_eq, braceSpan?_eq, Option.map_bind]
  refine congrArg _ (funext fun name => ?_)
  dsimp only [Function.comp]
  rw [← List.cons_append, ← List.cons_append, closingLine?_inserted h, Option.map_map, Option.map_map]
  refine congrArg (Option.map · _) (funext fun length => ?_)
  have hfirst : moved (index + (above.length + 1)) index = index := moved_of_lt (by omega)
  simp only [Function.comp, Span.moved, List.length_cons, moved_add, hfirst]

/-- A span moves with its declaration. -/
theorem braceSpan?_succ {place index : Nat} (h : place ≤ index) (first : List Char) (rest : List (List Char)) :
    braceSpan? t (index + 1) first rest = (braceSpan? t index first rest).map (Span.moved place) := by
  rw [braceSpan?_eq, braceSpan?_eq, Option.map_bind]
  refine congrArg _ (funext fun name => ?_)
  dsimp only [Function.comp]
  rw [Option.map_map]
  refine congrArg (Option.map · _) (funext fun length => ?_)
  simp only [Function.comp, Span.moved]
  rw [moved_of_le h, moved_of_le (h.trans (Nat.le_add_right index length)), Nat.add_right_comm]

/-- The functions from a line on are found alike when one line more is above them. -/
theorem braceSpansFrom_succ {place index : Nat} (h : place ≤ index) (codes : List (List Char)) :
    braceSpansFrom t (index + 1) codes = (braceSpansFrom t index codes).map (Span.moved place) := by
  induction codes generalizing index with
  | nil => rfl
  | cons first rest ih =>
    rw [braceSpansFrom, braceSpansFrom, List.map_append, ih (Nat.le_succ_of_le h), braceSpan?_succ h, Option.toList_map]

/-- A plain line that declares nothing moves the spans and leaves them as they are otherwise. -/
theorem braceSpansFrom_inserted (h : Plain code) (hname : declaredName? t code = none)
    (above below : List (List Char)) (index : Nat) :
    braceSpansFrom t index (above ++ code :: below) =
      (braceSpansFrom t index (above ++ below)).map (Span.moved (index + above.length)) := by
  induction above generalizing index with
  | nil =>
    have hnone : braceSpan? t index code below = none := by rw [braceSpan?_eq, hname]; rfl
    rw [List.nil_append, List.nil_append, braceSpansFrom, hnone]
    exact braceSpansFrom_succ (Nat.le_refl index) below
  | cons first above ih =>
    rw [List.cons_append, List.cons_append, braceSpansFrom, braceSpansFrom, List.map_append, braceSpan?_inserted h, ih,
      Option.toList_map, Nat.add_right_comm]
    rfl

end Spans

/-! ## Own lines -/

/-- The lines of a span stand on both sides of the place before a line. -/
def Span.Encloses (place : Nat) (s : Span) : Prop := s.start < place ∧ place ≤ s.stop

/-- A line put before line `place` belongs to a span: it is around the place, and no span inside it is. -/
def Span.Receives (all : List Span) (place : Nat) (s : Span) : Prop :=
  s.Encloses place ∧ ∀ inner ∈ all, inner.inside s = true → ¬inner.Encloses place

instance (place : Nat) (s : Span) : Decidable (s.Encloses place) := inferInstanceAs (Decidable (_ ∧ _))

instance (all : List Span) (place : Nat) (s : Span) : Decidable (s.Receives all place) := inferInstanceAs (Decidable (_ ∧ _))

section OwnLines

variable (place : Nat) (s : Span)

theorem Span.holds_moved (index : Nat) : (s.moved place).holds (Functions.moved place index) = s.holds index := by
  simp only [Span.holds, Span.moved, moved_le_moved]

/-- The new line is in the functions that enclose the place. -/
theorem Span.holds_place : (s.moved place).holds place = true ↔ s.Encloses place := by
  simp only [Span.holds, Span.moved, Bool.and_eq_true, decide_eq_true_eq, moved_le_place, place_le_moved, Span.Encloses]

theorem Span.inside_moved (inner : Span) : (inner.moved place).inside (s.moved place) = inner.inside s := by
  simp only [Span.inside, Span.moved, moved_lt_moved, moved_le_moved]

/-- The lines of a span once a line has been put in: the same lines, moved, and the new one among them where the span is around
it. -/
theorem exists_range'_moved : ∃ before behind, List.range' s.start (s.stop + 1 - s.start) = before ++ behind ∧
    List.range' (s.moved place).start ((s.moved place).stop + 1 - (s.moved place).start) =
      before.map (moved place) ++ (if s.Encloses place then [place] else []) ++ behind.map (moved place) := by
  obtain ⟨name, start, stop⟩ := s
  dsimp only [Span.moved]
  rcases Nat.lt_or_ge stop place with hstop | hstop
  · -- the span ends above the place
    refine ⟨List.range' start (stop + 1 - start), [], (List.append_nil _).symm, ?_⟩
    rw [if_neg fun h => Nat.not_le.mpr hstop h.2, moved_of_lt hstop,
      map_moved_of_lt fun i hi => by have := List.mem_range'_1.mp hi; omega]
    rcases Nat.lt_or_ge start place with hstart | hstart
    · rw [moved_of_lt hstart, List.append_nil, List.map_nil, List.append_nil]
    · rw [moved_of_le hstart, Nat.sub_eq_zero_of_le (by omega), Nat.sub_eq_zero_of_le (by omega)]
      rfl
  rw [moved_of_le hstop]
  rcases Nat.lt_or_ge start place with hstart | hstart
  · -- it is around the place
    obtain ⟨n, rfl⟩ := Nat.exists_eq_add_of_le hstart.le
    obtain ⟨m, rfl⟩ := Nat.exists_eq_add_of_le hstop
    refine ⟨List.range' start n, List.range' (start + n) (m + 1), ?_, ?_⟩
    · rw [List.range'_append_1]
      congr 1
      omega
    · rw [if_pos ⟨hstart, hstop⟩, moved_of_lt hstart, map_moved_range' (Nat.le_refl _),
        map_moved_of_lt fun i hi => (List.mem_range'_1.mp hi).2, List.append_assoc, List.singleton_append, ← List.range'_succ,
        List.range'_append_1]
      congr 1
      omega
  · -- it begins below the place
    refine ⟨[], List.range' start (stop + 1 - start), rfl, ?_⟩
    rw [if_neg fun h => Nat.not_lt.mpr hstart h.1, map_moved_range' hstart, moved_of_le hstart, Nat.add_sub_add_right]
    rfl

/-- A line is in a nested function as before. -/
theorem any_holds_moved (inner : List Span) (index : Nat) :
    (inner.map (Span.moved place)).any (·.holds (moved place index)) = inner.any (·.holds index) := by
  rw [List.any_map]
  exact congrArg inner.any (funext fun span => span.holds_moved place index)

/-- A function receives the new line when it encloses the place and no nested function takes it. -/
theorem Span.receives_iff (all : List Span) : s.Receives all place ↔
    s.Encloses place ∧ ((all.filter (·.inside s)).map (Span.moved place)).any (·.holds place) = false := by
  refine and_congr_right fun _ => ?_
  rw [List.any_map, List.any_eq_false]
  simp only [List.mem_filter, and_imp, Function.comp, Span.holds_place]

/-- The nested functions of a function stay the same. -/
theorem filter_inside_moved (all : List Span) : (all.map (Span.moved place)).filter (·.inside (s.moved place)) =
    (all.filter (·.inside s)).map (Span.moved place) := by
  rw [List.filter_map]
  exact congrArg _ (List.filter_congr fun inner _ => s.inside_moved place inner)

/-- A span keeps its own lines, moved, and has the new one among them if that belongs to it. -/
theorem exists_ownLines_moved (all : List Span) : ∃ before behind, ownLines s all = before ++ behind ∧
    ownLines (s.moved place) (all.map (Span.moved place)) =
      before.map (moved place) ++ (if s.Receives all place then [place] else []) ++ behind.map (moved place) := by
  obtain ⟨before, behind, hlines, hlines'⟩ := exists_range'_moved place s
  let inner := all.filter (·.inside s)
  have hmoved : ∀ indices : List Nat,
      (indices.map (moved place)).filter (fun index => !(inner.map (Span.moved place)).any (·.holds index)) =
        (indices.filter fun index => !inner.any (·.holds index)).map (moved place) := by
    intro indices
    rw [List.filter_map]
    exact congrArg _ (List.filter_congr fun index _ => congrArg not (any_holds_moved place inner index))
  have hnew : (if s.Encloses place then [place] else []).filter
      (fun index => !(inner.map (Span.moved place)).any (·.holds index)) = if s.Receives all place then [place] else [] := by
    by_cases henclosed : s.Encloses place
    · rw [if_pos henclosed, List.filter_singleton, if_congr ((s.receives_iff place all).trans (and_iff_right henclosed)) rfl rfl]
      cases (inner.map (Span.moved place)).any (·.holds place) <;> rfl
    · rw [if_neg henclosed, if_neg fun h => henclosed h.1, List.filter_nil]
  refine ⟨before.filter fun index => !inner.any (·.holds index), behind.filter fun index => !inner.any (·.holds index), ?_, ?_⟩
  · rw [ownLines, hlines, List.filter_append]
  · rw [ownLines, filter_inside_moved, hlines', List.filter_append, List.filter_append, hmoved, hmoved, hnew]

end OwnLines

/-! ## Nesting -/

/-- Plain code opens and closes no braces. -/
theorem braceDepth_of_plain {code : List Char} (h : Plain code) (depth : Int) : braceDepth depth code = depth := by
  induction code with
  | nil => rfl
  | cons c rest ih =>
    have hc := h c List.mem_cons_self
    simp only [structuralSigns, List.mem_cons, List.not_mem_nil, or_false, not_or] at hc
    rw [braceDepth, List.foldl_cons, if_neg hc.1, if_neg hc.2.1]
    exact ih fun d hd => h d (List.mem_cons_of_mem c hd)

/-- Each line has a depth. -/
@[simp] theorem length_depthsBefore (depth : Int) (codes : List (List Char)) : (depthsBefore depth codes).length = codes.length := by
  induction codes generalizing depth with
  | nil => rfl
  | cons code rest ih => rw [depthsBefore, List.length_cons, List.length_cons, ih]

/-- The depth goes on from the lines above. -/
theorem depthsBefore_append (depth : Int) (above below : List (List Char)) :
    depthsBefore depth (above ++ below) = depthsBefore depth above ++ depthsBefore (above.foldl braceDepth depth) below := by
  induction above generalizing depth with
  | nil => rfl
  | cons code above ih => rw [List.cons_append, depthsBefore, ih, depthsBefore, List.cons_append, List.foldl_cons]

/-- The depth of the first lines depends on nothing below them. -/
theorem depthsBefore_take (depth : Int) (codes : List (List Char)) (n : Nat) :
    depthsBefore depth (codes.take n) = (depthsBefore depth codes).take n := by
  induction codes generalizing depth n with
  | nil => rw [List.take_nil, depthsBefore, List.take_nil]
  | cons code rest ih =>
    cases n with
    | zero => rfl
    | succ n => rw [List.take_succ_cons, depthsBefore, depthsBefore, List.take_succ_cons, ih]

/-- A plain line is as deep as the line that it is put before, and leaves that one as deep as it was. -/
theorem depthsBefore_inserted {code : List Char} (h : Plain code) (depth : Int)
    (above below : List (List Char)) (i : Nat) :
    (depthsBefore depth (above ++ code :: below))[moved above.length i]? = (depthsBefore depth (above ++ below))[i]? := by
  rw [depthsBefore_append, depthsBefore_append, depthsBefore, braceDepth_of_plain h, ← length_depthsBefore depth above]
  exact getElem?_moved _ _ _ i

/-- The same from the first line of a span on. -/
theorem depthsBefore_drop_inserted {code : List Char} (h : Plain code) (above below : List (List Char))
    {first index : Nat} (hle : first ≤ index) :
    (depthsBefore 0 ((above ++ code :: below).drop (moved above.length first)))[
        moved above.length index - moved above.length first]? =
      (depthsBefore 0 ((above ++ below).drop first))[index - first]? := by
  obtain ⟨n, rfl⟩ := Nat.exists_eq_add_of_le hle
  rcases Nat.lt_or_ge first above.length with hlt | hge
  · obtain ⟨m, hm⟩ := Nat.exists_eq_add_of_le hlt.le
    have hdrop := depthsBefore_inserted h 0 (above.drop first) below n
    rw [List.length_drop, hm, Nat.add_sub_cancel_left] at hdrop
    rw [moved_of_lt hlt, hm, moved_add, Nat.add_sub_cancel_left, Nat.add_sub_cancel_left, List.drop_append_of_le_length hlt.le,
      List.drop_append_of_le_length hlt.le, hdrop]
  · rw [moved_of_le hge, moved_of_le (hge.trans hle), Nat.add_sub_add_right]
    congr 2
    rw [List.drop_append, List.drop_append, List.drop_of_length_le hge, List.drop_of_length_le (Nat.le_succ_of_le hge),
      Nat.succ_sub hge]
    rfl

/-- How deeply a line of a span with braces is nested: the lines behind it have no say. -/
theorem nesting_span {t : Toolchain} (ht : t ≠ pythonUv) (lines : List Line) {span : Span} {index : Nat}
    (hstart : span.start ≤ index) (hstop : index ≤ span.stop) : (nesting t (span.lines lines))[index - span.start]? =
      ((depthsBefore 0 ((lines.map (·.code)).drop span.start))[index - span.start]?).map fun d => max 0 (d - 1) := by
  have hnesting : nesting t (span.lines lines) = (depthsBefore 0 ((span.lines lines).map (·.code))).map fun d => max 0 (d - 1) := by
    cases t with
    | pythonUv => exact absurd rfl ht
    | _ => rfl
  rw [hnesting, Span.lines, List.getElem?_map, List.map_take, List.map_drop, depthsBefore_take, List.getElem?_take_of_lt (by omega)]

/-! ## Values -/

/-- What a line adds to the cyclomatic value of a function that it belongs to. -/
def decisionsAt (t : Toolchain) (lines : List Line) (span : Span) (index : Nat) : Nat :=
  decisions t (if index = span.start then fromName span.name ((lines[index]?.map (·.code)).getD [])
    else (lines[index]?.map (·.code)).getD [])

/-- The branches of a function are one more than the decisions in its own lines. -/
theorem cyclomatic_eq (t : Toolchain) (lines : List Line) (span : Span) (own : List Nat) :
    cyclomatic t lines span own = 1 + total (own.map (decisionsAt t lines span)) := rfl

/-- What a line adds to the cognitive value of a function that it belongs to. -/
def scoreAt (t : Toolchain) (lines : List Line) (span : Span) (index : Nat) : Int :=
  if index = span.start ∨ !(lines[index]?.any (·.hasCode)) then 0
  else lineScore t ((lines[index]?.map (·.code)).getD []) (((nesting t (span.lines lines))[index - span.start]?).getD 0)

/-- The weighted branches of a function add up over its own lines. -/
theorem cognitive_eq (t : Toolchain) (lines : List Line) (span : Span) (own : List Nat) :
    cognitive t lines span own = (own.map (scoreAt t lines span)).foldr Int.add 0 := rfl

/-- The code of some scanned lines, and of those lines with one put among them. -/
structure Inserted (lines lines' : List Line) (above : List (List Char)) (code : List Char) (below : List (List Char)) : Prop where
  before : lines.map (·.code) = above ++ below
  after : lines'.map (·.code) = above ++ code :: below

section Values

variable {t : Toolchain} {lines lines' : List Line} {above below : List (List Char)} {code : List Char}

/-- Each line has the code that it had. -/
theorem Inserted.code_moved (hins : Inserted lines lines' above code below) (i : Nat) :
    lines'[moved above.length i]?.map (·.code) = lines[i]?.map (·.code) := by
  rw [← List.getElem?_map, ← List.getElem?_map, hins.before, hins.after, getElem?_moved]

/-- The inserted line is at the place. -/
theorem Inserted.code_place (hins : Inserted lines lines' above code below) : lines'[above.length]?.map (·.code) = some code := by
  rw [← List.getElem?_map, hins.after, List.getElem?_append_right (Nat.le_refl _), Nat.sub_self]
  rfl

/-- A line has the decisions that it had. -/
theorem decisionsAt_moved (hins : Inserted lines lines' above code below) (span : Span) (index : Nat) :
    decisionsAt t lines' (span.moved above.length) (moved above.length index) = decisionsAt t lines span index := by
  simp only [decisionsAt, hins.code_moved, Span.moved, moved_inj]

/-- The inserted line has the decisions of its code. -/
theorem decisionsAt_place (hins : Inserted lines lines' above code below) {span : Span} (h : span.Encloses above.length) :
    decisionsAt t lines' (span.moved above.length) above.length = decisions t code := by
  have hne : above.length ≠ moved above.length span.start := by
    rw [moved_of_lt h.1]
    exact Nat.ne_of_gt h.1
  rw [decisionsAt, hins.code_place]
  exact congrArg (decisions t) (if_neg hne)

/-- The decisions of the new line are added where it belongs. -/
theorem cyclomatic_inserted (hins : Inserted lines lines' above code below) (span : Span) (all : List Span) :
    cyclomatic t lines' (span.moved above.length) (ownLines (span.moved above.length) (all.map (Span.moved above.length))) =
      cyclomatic t lines span (ownLines span all) + if span.Receives all above.length then decisions t code else 0 := by
  obtain ⟨before, behind, hown, hown'⟩ := exists_ownLines_moved above.length span all
  have hmoved : ∀ indices : List Nat, (indices.map (moved above.length)).map (decisionsAt t lines' (span.moved above.length)) =
      indices.map (decisionsAt t lines span) := by
    intro indices
    rw [List.map_map]
    exact List.map_congr_left fun index _ => decisionsAt_moved hins span index
  have hnew : total ((if span.Receives all above.length then [above.length] else []).map
      (decisionsAt t lines' (span.moved above.length))) = if span.Receives all above.length then decisions t code else 0 := by
    split
    · rename_i hreceives
      rw [List.map_singleton, decisionsAt_place hins hreceives.1]
      rfl
    · rfl
  rw [cyclomatic_eq, cyclomatic_eq, hown, hown', List.map_append, List.map_append, List.map_append, hmoved, hmoved, total_append,
    total_append, total_append, hnew]
  omega

/-- A line of a function has the score that it had, as plain code changes no depth. -/
theorem scoreAt_moved (ht : t ≠ pythonUv) (h : Plain code) (hins : Inserted lines lines' above code below) {span : Span}
    {index : Nat} (hstart : span.start ≤ index) (hstop : index ≤ span.stop) :
    scoreAt t lines' (span.moved above.length) (moved above.length index) = scoreAt t lines span index := by
  have hcode := hins.code_moved index
  have hany : lines'[moved above.length index]?.any (·.hasCode) = lines[index]?.any (·.hasCode) := by
    have hmap : ∀ line? : Option Line, line?.any (·.hasCode) = (line?.map (·.code)).any (·.any fun c => !isBlank c) :=
      fun line? => by cases line? <;> rfl
    rw [hmap, hmap, hcode]
  have hlevel : (nesting t ((span.moved above.length).lines lines'))[moved above.length index - (span.moved above.length).start]? =
      (nesting t (span.lines lines))[index - span.start]? := by
    rw [nesting_span ht lines hstart hstop, nesting_span ht lines' (moved_le_moved.mpr hstart) (moved_le_moved.mpr hstop),
      hins.before, hins.after]
    exact congrArg _ (depthsBefore_drop_inserted h above below hstart)
  rw [scoreAt, scoreAt, hcode, hany, hlevel]
  simp only [Span.moved, moved_inj]

/-- A function that the new line does not belong to is as hard to read as it was. -/
theorem cognitive_inserted (ht : t ≠ pythonUv) (h : Plain code) (hins : Inserted lines lines' above code below) {span : Span}
    {all : List Span} (hspan : ¬span.Receives all above.length) :
    cognitive t lines' (span.moved above.length) (ownLines (span.moved above.length) (all.map (Span.moved above.length))) =
      cognitive t lines span (ownLines span all) := by
  obtain ⟨before, behind, hown, hown'⟩ := exists_ownLines_moved above.length span all
  rw [if_neg hspan, List.append_nil, ← List.map_append, ← hown] at hown'
  rw [cognitive_eq, cognitive_eq, hown', List.map_map]
  refine congrArg (List.foldr Int.add 0) (List.map_congr_left fun index hindex => ?_)
  obtain ⟨hstart, hstop⟩ := List.mem_range'_1.mp (List.mem_of_mem_filter hindex)
  exact scoreAt_moved ht h hins hstart (by omega)

end Values

end Functions

open Functions

/-! ## Functions -/

namespace FunctionInfo

/-- What is reported of a function: its values stop at the ceiling. -/
def capped (f : FunctionInfo) : FunctionInfo :=
  { f with cyclomatic := min ceiling f.cyclomatic, cognitive := min ceiling f.cognitive }

/-- The lines of a function stand on both sides of the place behind a number of lines. -/
def Encloses (place : Nat) (f : FunctionInfo) : Prop := f.line ≤ place ∧ place < f.endLine

/-- A line put behind a number of lines belongs to a function: its lines are around the place, and those of no function that starts
later and ends no later are. -/
def Receives (all : List FunctionInfo) (place : Nat) (f : FunctionInfo) : Prop :=
  f.Encloses place ∧ ∀ inner ∈ all, f.line < inner.line → inner.endLine ≤ f.endLine → ¬inner.Encloses place

instance (place : Nat) (f : FunctionInfo) : Decidable (f.Encloses place) := inferInstanceAs (Decidable (_ ∧ _))

instance (all : List FunctionInfo) (place : Nat) (f : FunctionInfo) : Decidable (f.Receives all place) :=
  inferInstanceAs (Decidable (_ ∧ _))

/-- What a function, one of `all`, becomes when a line with some decisions is put behind `place` lines. -/
structure Becomes (all : List FunctionInfo) (place added : Nat) (f f' : FunctionInfo) : Prop where
  name : f'.name = f.name
  line : f'.line = if place < f.line then f.line + 1 else f.line
  endLine : f'.endLine = if place < f.endLine then f.endLine + 1 else f.endLine
  raised : f.Receives all place → f'.cyclomatic = f.cyclomatic + added
  kept : ¬f.Receives all place → f'.cyclomatic = f.cyclomatic ∧ f'.cognitive = f.cognitive

end FunctionInfo

/-- A function among others, with the values it has before the ceiling. -/
def uncappedOf (t : Toolchain) (lines : List Line) (all : List Span) (span : Span) : FunctionInfo where
  name := String.ofList span.name
  line := span.start + 1
  endLine := span.stop + 1
  cyclomatic := cyclomatic t lines span (ownLines span all)
  cognitive := (cognitive t lines span (ownLines span all)).toNat

/-- The functions of scanned lines with the values they have before the ceiling. -/
def uncapped (t : Toolchain) (lines : List Line) : List FunctionInfo :=
  (spans t lines).map (uncappedOf t lines (spans t lines))

/-- The functions of a file are those that are measured before the cap, each with the cap on it. -/
theorem analyzeFunctions_eq (t : Toolchain) (lines : List Line) : analyzeFunctions t lines = (uncapped t lines).map (·.capped) := by
  rw [uncapped, List.map_map]
  rfl

/-- A function that is measured encloses what it did. -/
theorem encloses_uncappedOf (t : Toolchain) (lines : List Line) (all : List Span) (span : Span) (place : Nat) :
    (uncappedOf t lines all span).Encloses place ↔ span.Encloses place :=
  and_congr_right fun _ => Nat.lt_succ_iff

/-- A function that is measured receives what it did. -/
theorem receives_uncappedOf (t : Toolchain) (lines : List Line) (all : List Span) (span : Span) (place : Nat) :
    (uncappedOf t lines all span).Receives (all.map (uncappedOf t lines all)) place ↔ span.Receives all place := by
  refine and_congr (encloses_uncappedOf t lines all span place) ?_
  rw [List.forall_mem_map]
  refine forall₂_congr fun inner _ => ?_
  rw [encloses_uncappedOf, Span.inside, Bool.and_eq_true, decide_eq_true_eq, decide_eq_true_eq, and_imp]
  exact imp_congr Nat.succ_lt_succ_iff (imp_congr Nat.succ_le_succ_iff Iff.rfl)

/-- What becomes of a function when a plain line is put among the lines of code. -/
theorem becomes_moved {t : Toolchain} {lines lines' : List Line} {above below : List (List Char)} {code : List Char}
    (ht : t ≠ pythonUv) (h : Plain code) (hins : Inserted lines lines' above code below) (all : List Span) (span : Span) :
    (uncappedOf t lines all span).Becomes (all.map (uncappedOf t lines all)) above.length (decisions t code)
      (uncappedOf t lines' (all.map (Span.moved above.length)) (span.moved above.length)) := by
  have hcyclomatic := cyclomatic_inserted (t := t) hins span all
  have hreceives := receives_uncappedOf t lines all span above.length
  exact {
    name := rfl
    line := moved_succ.symm
    endLine := moved_succ.symm
    raised := fun hraised => by rwa [if_pos (hreceives.mp hraised)] at hcyclomatic
    kept := fun hkept => by
      rw [hreceives] at hkept
      rw [if_neg hkept] at hcyclomatic
      exact ⟨hcyclomatic, congrArg Int.toNat (cognitive_inserted ht h hins hkept)⟩ }

section Insertion

variable {t : Toolchain} {above below : List (List Char)} {text : List Char}

/-- The code of a line that is scanned from code on. -/
def lineCode (t : Toolchain) (text : List Char) : List Char := (steps t (start .code) text).code.reverse

/-- A line may be put behind some lines of a source: the scanner is in code there, and in code again behind it, and the line has no
part in the structure of the source. -/
structure Insertable (t : Toolchain) (above : List (List Char)) (text : List Char) : Prop where
  line : '\n' ∉ text
  here : modeFrom t .code above = .code
  behind : modeFrom t .code [text] = .code
  plain : Plain (lineCode t text)
  undeclared : declaredName? t (lineCode t text) = none

/-- The code on lines does not depend on their numbers. -/
theorem map_code_linesFrom (mode : Mode) (number number' : Nat) (texts : List (List Char)) :
    (linesFrom t mode number texts).map (·.code) = (linesFrom t mode number' texts).map (·.code) := by
  induction texts generalizing mode number number' with
  | nil => rfl
  | cons text rest ih => rw [linesFrom, linesFrom, List.map_cons, List.map_cons, ih _ (number + 1) (number' + 1)]; rfl

/-- The code on the lines of a source, and of the source with a line put in. -/
theorem exists_inserted {content : List Char} (hsource : splitLines content = above ++ below) (h : Insertable t above text) :
    ∃ before behind, before.length = above.length ∧
      Inserted (scan t content) (scan t (joinLines (above ++ text :: below))) before (lineCode t text) behind := by
  have hlines : ∀ line ∈ above ++ text :: below, '\n' ∉ line := by
    have hold : ∀ line ∈ above ++ below, '\n' ∉ line := fun line hline => lineFeed_notMem_of_mem_splitLines (hsource ▸ hline)
    simp only [List.mem_append, List.mem_cons] at hold ⊢
    rintro line (hline | rfl | hline)
    · exact hold line (.inl hline)
    · exact h.line
    · exact hold line (.inr hline)
  have hne : above ++ text :: below ≠ [] := List.append_ne_nil_of_right_ne_nil _ (List.cons_ne_nil _ _)
  refine ⟨(linesFrom t .code 1 above).map (·.code), (linesFrom t .code 1 below).map (·.code), ?_, ⟨?_, ?_⟩⟩
  · rw [List.length_map, length_linesFrom]
  · rw [scan, hsource, linesFrom_append, h.here, List.map_append, map_code_linesFrom .code (1 + above.length) 1 below]
  · have hbehind : nextMode (steps t (start .code) text).mode = .code := h.behind
    rw [scan, splitLines_joinLines hlines hne, linesFrom_append, h.here, linesFrom, List.map_append, List.map_cons, hbehind,
      map_code_linesFrom .code (1 + above.length + 1) 1 below]
    rfl

/-- A line put between two lines of a source leaves the functions with their names, moves the lines behind it down by one, and
adds its decisions to the functions that it belongs to and to no others. -/
theorem analyzeFunctions_inserted {content : List Char} (ht : t ≠ pythonUv) (hsource : splitLines content = above ++ below)
    (h : Insertable t above text) :
    analyzeFunctions t (scan t content) = (uncapped t (scan t content)).map (·.capped) ∧
      analyzeFunctions t (scan t (joinLines (above ++ text :: below))) =
        (uncapped t (scan t (joinLines (above ++ text :: below)))).map (·.capped) ∧
      List.Forall₂ (FunctionInfo.Becomes (uncapped t (scan t content)) above.length (decisions t (lineCode t text)))
        (uncapped t (scan t content)) (uncapped t (scan t (joinLines (above ++ text :: below)))) := by
  refine ⟨analyzeFunctions_eq t _, analyzeFunctions_eq t _, ?_⟩
  obtain ⟨before, behind, hlength, hins⟩ := exists_inserted hsource h
  generalize scan t content = lines at *
  generalize scan t (joinLines (above ++ text :: below)) = lines' at *
  have hspans : spans t lines' = (spans t lines).map (Span.moved before.length) := by
    rw [spans, spans, if_neg ht, if_neg ht, hins.before, hins.after, braceSpansFrom_inserted h.plain h.undeclared, Nat.zero_add]
  rw [← hlength, uncapped, uncapped, hspans, List.map_map, List.forall₂_map_left_iff, List.forall₂_map_right_iff,
    List.forall₂_same]
  exact fun span _ => becomes_moved ht h.plain hins (spans t lines) span

end Insertion

namespace ContinuedCondition

/-- The lines of a function inside another, up to a condition that could go on. -/
def above : List (List Char) :=
  ["fn outer(x: i32) -> bool \x7b".toList, "    fn inner(y: i32) -> bool \x7b".toList, "        0 < y".toList]

def text : List Char := "            && y < 9".toList

def below : List (List Char) := ["    \x7d".toList, "    inner(x)".toList, "\x7d".toList]

def shorter : List Char := joinLines (above ++ below)

def longer : List Char := joinLines (above ++ text :: below)

theorem insertable : Insertable rust above text :=
  ⟨by decide, by decide +kernel, by decide +kernel, by decide +kernel, by decide +kernel⟩

end ContinuedCondition

open ContinuedCondition in
/-- A condition that goes on in a further line is a decision of the inner function; the outer one is only longer. -/
theorem continuedCondition_inserted :
    List.Forall₂ (FunctionInfo.Becomes (uncapped rust (scan rust shorter)) 3 1) (uncapped rust (scan rust shorter))
      (uncapped rust (scan rust longer)) ∧
    analyzeFunctions rust (scan rust shorter) = [⟨"outer", 1, 6, 1, 0⟩, ⟨"inner", 2, 4, 1, 0⟩] ∧
    analyzeFunctions rust (scan rust longer) = [⟨"outer", 1, 7, 1, 0⟩, ⟨"inner", 2, 5, 2, 0⟩] := by
  have hdecisions : decisions rust (lineCode rust text) = 1 := by decide +kernel
  obtain ⟨-, -, hbecomes⟩ := @analyzeFunctions_inserted rust above below text shorter (by decide) (by decide +kernel) insertable
  rw [hdecisions] at hbecomes
  exact ⟨hbecomes, by decide +kernel, by decide +kernel⟩

end QualityGate
