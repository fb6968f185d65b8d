import QualityGate.Source.Functions

/-!
# What the values of functions are read from

The functions of a source are read from the code on its lines and, where bodies are told by indentation, from the blanks that the
lines start with. Numbers, comments and all else that a scanned line holds have no part in them.
-/

namespace QualityGate

open Toolchain

namespace Functions

/-- A change of lines that leaves what functions are read from: the code, and the indentation where that tells the bodies. -/
structure KeepsInputs (t : Toolchain) (g : Line → Line) : Prop where
  code : ∀ line, (g line).code = line.code
  indentation : t = pythonUv → ∀ line, (g line).indentation = line.indentation

namespace KeepsInputs

variable {t : Toolchain} {g : Line → Line}

theorem hasCode (h : KeepsInputs t g) (line : Line) : (g line).hasCode = line.hasCode := by
  simp [Line.hasCode, h.code]

/-- The change leaves the code of all lines. -/
theorem map_code (h : KeepsInputs t g) (lines : List Line) : (lines.map g).map (·.code) = lines.map (·.code) := by
  rw [List.map_map]
  exact List.map_congr_left fun line _ => h.code line

/-- A body that is told by indentation has as many lines as before. -/
theorem indentLength_map (h : KeepsInputs pythonUv g) (base last seen : Nat) (lines : List Line) :
    indentLength base last seen (lines.map g) = indentLength base last seen lines := by
  induction lines generalizing last seen with
  | nil => rfl
  | cons line rest ih =>
    rw [List.map_cons, indentLength, indentLength, h.hasCode, h.indentation rfl, ih, ih]

/-- The bodies that indentation tells are where they were. -/
theorem indentSpansFrom_map (h : KeepsInputs pythonUv g) (index : Nat) (lines : List Line) :
    indentSpansFrom pythonUv index (lines.map g) = indentSpansFrom pythonUv index lines := by
  induction lines generalizing index with
  | nil => rfl
  | cons line rest ih =>
    rw [List.map_cons, indentSpansFrom, indentSpansFrom, h.code, h.indentation rfl, ih, h.indentLength_map]

/-- The functions are where they were. -/
theorem spans_map (h : KeepsInputs t g) (lines : List Line) : spans t (lines.map g) = spans t lines := by
  unfold spans
  by_cases ht : t = pythonUv
  · subst ht
    rw [if_pos rfl, if_pos rfl, h.indentSpansFrom_map]
  · rw [if_neg ht, if_neg ht, h.map_code]

/-- The depths that indentation tells are what they were. -/
theorem indentNesting_map (h : KeepsInputs pythonUv g) (open_ : List Nat) (lines : List Line) :
    indentNesting open_ (lines.map g) = indentNesting open_ lines := by
  induction lines generalizing open_ with
  | nil => rfl
  | cons line rest ih =>
    rw [List.map_cons, indentNesting, indentNesting, h.hasCode, h.code, h.indentation rfl]
    simp only [ih]

/-- Each line is as deeply nested as before. -/
theorem nesting_map (h : KeepsInputs t g) (lines : List Line) : nesting t (lines.map g) = nesting t lines := by
  cases t with
  | pythonUv =>
    cases lines with
    | nil => rfl
    | cons line body =>
      rw [List.map_cons, nesting, nesting, h.indentNesting_map]
  | rust | deno | go => simp only [nesting, h.map_code]

/-- The branches of a function are counted as before. -/
theorem cyclomatic_map (h : KeepsInputs t g) (lines : List Line) (span : Span) (own : List Nat) :
    cyclomatic t (lines.map g) span own = cyclomatic t lines span own := by
  simp [cyclomatic, Function.comp_def, h.code]

/-- The weighted branches of a function are counted as before. -/
theorem cognitive_map (h : KeepsInputs t g) (lines : List Line) (span : Span) (own : List Nat) :
    cognitive t (lines.map g) span own = cognitive t lines span own := by
  have hlines : span.lines (lines.map g) = (span.lines lines).map g := by simp [Span.lines]
  have hany : ∀ line? : Option Line, (line?.map g).any (·.hasCode) = line?.any (·.hasCode) := by
    intro line?
    cases line? with
    | none => rfl
    | some line => exact h.hasCode line
  rw [cognitive, cognitive, hlines, h.nesting_map]
  simp [Function.comp_def, h.code, hany]

end KeepsInputs

end Functions

open Functions

/-- Lines that are changed in nothing that functions are read from have the same functions. -/
theorem analyzeFunctions_map {t : Toolchain} {g : Line → Line} (h : KeepsInputs t g) (lines : List Line) :
    analyzeFunctions t (lines.map g) = analyzeFunctions t lines := by
  unfold analyzeFunctions
  simp only [h.spans_map, h.cyclomatic_map, h.cognitive_map]

end QualityGate
