import QualityGate.Profile
import QualityGate.Source.Outline
import QualityGate.Source.Satd
import QualityGate.Source.TestStubs

/-!
# Rewrite plans

A plan says for each violation of a file how it is to be fixed and previews the file's new content: debt markers are taken out and
each function that is too complex gets a marker comment above its declaration. A function whose line already follows such a marker
gets no second one.
-/

namespace QualityGate

/-- How a violation is fixed. -/
inductive FixStrategy where
  | extractFunction
  | simplifyCondition
  | removeDeadCode
  | addTest
  | applySuggestion (suggestion : String)
  deriving DecidableEq, Repr, Inhabited

namespace FixStrategy

def kind : FixStrategy → String
  | extractFunction => "ExtractFunction"
  | simplifyCondition => "SimplifyCondition"
  | removeDeadCode => "RemoveDeadCode"
  | addTest => "AddTest"
  | applySuggestion _ => "ApplySuggestion"

instance : Encode FixStrategy where
  encode s :=
    match s with
    | applySuggestion suggestion => .obj [("kind", .str s.kind), ("suggestion", .str suggestion)]
    | _ => .obj [("kind", .str s.kind)]

instance : Decode FixStrategy where
  decode? j :=
    match j.fieldD "kind" "" with
    | "ExtractFunction" => some extractFunction
    | "SimplifyCondition" => some simplifyCondition
    | "RemoveDeadCode" => some removeDeadCode
    | "AddTest" => some addTest
    | "ApplySuggestion" => some (applySuggestion (j.fieldD "suggestion" ""))
    | _ => none

/-- The suggestion that stands in when a violation has none. -/
def defaultSuggestion : String := "Apply clippy suggestion"

/-- The strategy that a lint calls for. -/
def forLint (lint : String) (suggestion : Option String) : FixStrategy :=
  if lint = "satd_item" ∨ Text.has lint "unused" then removeDeadCode
  else if lint = "high_complexity" ∨ Text.has lint "complexity" then extractFunction
  else if lint = "if_same_then_else" ∨ Text.ends lint "::if_same_then_else" then simplifyCondition
  else if lint = TestStubs.missingTestsLint then addTest
  else applySuggestion (suggestion.getD defaultSuggestion)

/-- The strategy in words. -/
def describe : FixStrategy → String
  | applySuggestion suggestion => s!"ApplySuggestion({suggestion})"
  | s => s.kind

end FixStrategy

/-- A violation with the way to fix it. -/
structure PlannedViolation where
  lintName : String
  line : Int
  column : Int
  message : String
  fixStrategy : FixStrategy
  deriving DecidableEq, Repr, Inhabited

instance : Encode PlannedViolation where
  encode v :=
    .obj [("lintName", encode v.lintName), ("line", encode v.line), ("column", encode v.column),
      ("message", encode v.message), ("fixStrategy", encode v.fixStrategy)]

instance : Decode PlannedViolation where
  decode? j := do
    return { lintName := j.fieldD "lintName" "", line := j.fieldD "line" 0, column := j.fieldD "column" 0,
             message := j.fieldD "message" "", fixStrategy := j.fieldD "fixStrategy" .addTest }

/-- The plan for a file: what is to be fixed, its outline, and its content after the planned edits. -/
structure RewritePlan where
  filePath : String
  violations : List PlannedViolation
  outline : Outline
  newContent : List Char
  deriving DecidableEq, Repr, Inhabited

instance : Encode RewritePlan where
  encode p :=
    .obj [("filePath", encode p.filePath), ("violations", encode p.violations), ("astMetadata", encode p.outline),
      ("newContent", .str (String.ofList p.newContent))]

instance : Decode RewritePlan where
  decode? j := do
    return { filePath := j.fieldD "filePath" "", violations := j.fieldD "violations" [],
             outline := j.fieldD "astMetadata" default, newContent := (j.fieldD "newContent" "").toList }

/-- What a plan is made from. A file that does not exist has no content. -/
structure PlanInput where
  filePath : String
  content : Option (List Char)
  toolchain : Toolchain
  violations : List Violation
  outline : Outline
  profile : Profile
  deriving Inhabited

namespace Plan

/-- What the marker above a function says. -/
def annotation : List Char := "COMPLEXITY: This function needs to be broken down".toList

/-- The violations of the functions whose complexity is over the limit. -/
def highComplexity (file : String) (o : Outline) (p : Profile) : List Violation :=
  (o.functions.filter fun f => p.complexityMax.lt (Number.ofNat f.cyclomatic)).map fun f =>
    .atLines file f.line f.endLine "high_complexity"
      s!"Function '{f.name}' has complexity {f.cyclomatic} (max allowed: {p.complexityMax})" .error
      s!"Break down this function to achieve target complexity of {p.complexityTarget}"

/-- The given violations and those that the file itself shows. -/
def findings (input : PlanInput) : List Violation :=
  match input.content with
  | none => input.violations
  | some content =>
    input.violations ++ (detectSatd input.toolchain input.filePath content).map DebtItem.toViolation ++
      highComplexity input.filePath input.outline input.profile

/-- A violation with its strategy. -/
def planned (v : Violation) : PlannedViolation :=
  ⟨v.lintName, v.line, v.column, v.message, .forLint v.lintName v.suggestion⟩

/-- The marker comment of a toolchain. -/
def marker (t : Toolchain) : List Char := (if t = .pythonUv then ['#', ' '] else ['/', '/', ' ']) ++ annotation

/-- A line of a list by its number from 1. -/
def lineAt? (lines : List (List Char)) (number : Int) : Option (List Char) :=
  if number < 1 then none else lines[(number - 1).toNat]?

/-- A line with the marker above it, indented alike. -/
def marked (t : Toolchain) (text : List Char) : List Char := leadingBlanks text ++ marker t ++ '\n' :: text

/-- The edits so far with those that a planned violation calls for. -/
def addEdit (t : Toolchain) (lines : List (List Char)) (satd edits : LineEdits) (v : PlannedViolation) : LineEdits :=
  if v.fixStrategy = .removeDeadCode ∧ v.lintName = "satd_item" then
    match satd.get? v.line with
    | some edit => edits.set v.line edit
    | none => edits
  else if v.fixStrategy = .extractFunction ∧ v.lintName = "high_complexity" then
    match lineAt? lines v.line with
    | none => edits
    | some text =>
      let previous := (lineAt? lines (v.line - 1)).getD []
      if contains previous annotation ∨ (edits.get? v.line).isSome then edits
      else edits.set v.line (.replace (marked t text))
  else edits

/-- The content with the planned edits. -/
def annotate (t : Toolchain) (violations : List PlannedViolation) (content : List Char) : List Char :=
  let lines := splitLines content
  let edits := violations.foldl (addEdit t lines (satdEdits t content)) []
  edits.apply content

end Plan

/-- The plan for a file. -/
def buildPlan (input : PlanInput) : RewritePlan :=
  let violations := (Plan.findings input).map Plan.planned
  { filePath := input.filePath, violations, outline := input.outline,
    newContent := (input.content.map (Plan.annotate input.toolchain violations)).getD [] }

end QualityGate
