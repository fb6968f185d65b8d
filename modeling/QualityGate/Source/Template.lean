import QualityGate.Source.Block
import QualityGate.Text.Path

/-!
# Rewrite templates

A template replaces one function: the text from its signature to the end of the block that follows.
-/

namespace QualityGate

/-- A replacement for the function with a signature, in files whose path ends in a suffix. -/
structure RewriteTemplate where
  fileSuffix : String
  signature : String
  replacement : String
  deriving DecidableEq, Repr, Inhabited

instance : Encode RewriteTemplate where
  encode t :=
    .obj [("fileSuffix", encode t.fileSuffix), ("signature", encode t.signature), ("replacement", encode t.replacement)]

instance : Decode RewriteTemplate where
  decode? j := do
    return { fileSuffix := j.fieldD "fileSuffix" "", signature := j.fieldD "signature" "",
             replacement := j.fieldD "replacement" "" }

namespace RewriteTemplate

/-- Whether a template is for a file and finds its signature there. -/
def applies (t : RewriteTemplate) (path : String) (content : List Char) : Bool :=
  (Path.normalChars t.fileSuffix.toList).isSuffixOf (Path.normalChars path.toList) && contains content t.signature.toList

/-- The content with the function replaced, if its signature and the end of its block are found. -/
def rewrite? (t : RewriteTemplate) (content : List Char) : Option (List Char) := do
  let start ← indexOf? t.signature.toList content
  let rest ← afterBlock? (content.drop start)
  return content.take start ++ t.replacement.toList ++ rest

end RewriteTemplate

/-- The content after all templates that apply, and those that changed it. -/
def applyTemplates (path : String) (templates : List RewriteTemplate) (content : List Char) :
    List Char × List RewriteTemplate :=
  templates.foldl (fun (current, applied) t =>
    if t.applies path current then
      match t.rewrite? current with
      | some next => if next = current then (current, applied) else (next, applied ++ [t])
      | none => (current, applied)
    else (current, applied)) (content, [])

end QualityGate
