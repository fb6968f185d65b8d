import QualityGate.Json
import QualityGate.Number.Decimal

/-!
# Plain text of JSON values

How a value reads when it stands in running text, and the number that such a text spells.
-/

namespace QualityGate.Json

/-- The name of the kind of a value. -/
def kind : Json → String
  | null => "null"
  | bool _ => "boolean"
  | num x => if x.isNan then "nan" else "number"
  | str _ => "string"
  | arr _ => "array"
  | obj _ => "object"

mutual

/-- A value in running text: a list is its items with commas between them, an object only says that it is one. -/
def plain : Json → String
  | null => "null"
  | bool b => if b then "true" else "false"
  | num x => x.text
  | str s => s
  | arr items => String.intercalate "," (plainItems items)
  | obj _ => "[object Object]"

/-- The items of a list in running text; null is left out. -/
def plainItems : List Json → List String
  | [] => []
  | null :: rest => "" :: plainItems rest
  | item :: rest => plain item :: plainItems rest

end

/-- The number that a value stands for: null and false are nothing, true is one, and a list or a text is read as a numeral. -/
def asNumber : Json → Number
  | null => 0
  | bool b => if b then 1 else 0
  | num x => x
  | str s => Number.ofText s
  | arr items => Number.ofText (plain (arr items))
  | obj _ => .nan

/-- The number that a field stands for, or a default when it is absent. -/
def numberAt (j : Json) (name : String) (default : Number := .nan) : Number := ((j.get? name).map asNumber).getD default

end QualityGate.Json
