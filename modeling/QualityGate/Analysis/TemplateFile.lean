import QualityGate.Json.Parser
import QualityGate.Schema
import QualityGate.Source.Template
import QualityGate.World

/-!
# Template files

Rewrite templates are kept in a JSON file: a list of them, or an object that holds the list. A replacement may be given line by line.
-/

namespace QualityGate

/-- Templates with the file that they were read from, if any. -/
structure TemplateSource where
  path : Option String
  templates : List RewriteTemplate
  deriving DecidableEq, Inhabited

instance : Encode TemplateSource := ⟨fun s => .obj [("path", encode s.path), ("templates", encode s.templates)]⟩

namespace TemplateSource

/-- A text, or its lines. -/
def replacementCheck : Check String := Check.either Check.text fun j => (Check.list Check.text j).map (Text.join "\n")

def templateCheck : Check RewriteTemplate := Check.object fun t =>
  RewriteTemplate.mk <$> Check.field t "file_suffix" (Check.nonempty Check.text)
    <*> Check.field t "signature" (Check.nonempty Check.text) <*> Check.field t "replacement" replacementCheck

def fileCheck : Check (List RewriteTemplate) :=
  Check.either (Check.list templateCheck)
    (Check.object fun f => Check.field f "templates" (Check.list templateCheck))

/-- The templates in a text. -/
def read (path text : String) : Except Failure (List RewriteTemplate) :=
  match Json.ofText? text with
  | none => .error (.configuration s!"Rewrite template file is not valid JSON: {path}")
  | some j =>
    let checked := fileCheck (some j)
    match checked.accepted?, checked.faults with
    | some templates, _ => .ok templates
    | none, f :: _ =>
      let place := Text.ofPath f.path
      .error (.configuration s!"Invalid rewrite template file {path}: {place} {f.message}")
    | none, [] => .error (.configuration s!"Invalid rewrite template file {path}: unknown error")

/-- The templates of a file; no path means no templates. -/
def load {η : Type} (path : Option String) : Action η TemplateSource := do
  match path.filter (· ≠ "") with
  | none => return ⟨none, []⟩
  | some path =>
    match ← Action.readText? path with
    | none => Action.fail (.configuration s!"Rewrite template file not found: {path}")
    | some text => return ⟨some path, ← Action.ofExcept (read path text)⟩

end TemplateSource

end QualityGate
