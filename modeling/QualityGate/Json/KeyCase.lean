import QualityGate.Json
import QualityGate.Record.Inherited

/-!
# Two spellings of field names

Fields are named in camel case inside the program and in snake case on the wire. Only names of the expected grammar are renamed;
the fields of an object that is itself data (`preserve` lists the fields that hold one) keep their names. A field `__proto__` is
not carried over, though who looks a field up may find it there (`adopted`).
-/

namespace QualityGate.KeyCase

/-- A lower-case letter followed by letters and digits. -/
def isCamel : List Char → Bool
  | [] => false
  | c :: rest => c.isLower && rest.all Char.isAlphanum

/-- The text after a lower-case letter is lower-case letters and digits in groups, each group but the first after one underscore. -/
def isSnakeTail : List Char → Bool
  | [] => true
  | '_' :: c :: rest => (c.isLower || c.isDigit) && isSnakeTail rest
  | c :: rest => (c.isLower || c.isDigit) && isSnakeTail rest

/-- Groups of lower-case letters and digits joined by single underscores, a letter first. -/
def isSnake : List Char → Bool
  | [] => false
  | c :: rest => c.isLower && isSnakeTail rest

/-- Each capital becomes an underscore and the small letter. -/
def snakeChars (name : List Char) : List Char :=
  name.flatMap fun c => if c.isUpper then ['_', c.toLower] else [c]

/-- Each underscore goes and the character after it becomes a capital. -/
def camelChars : List Char → List Char
  | '_' :: c :: rest => c.toUpper :: camelChars rest
  | c :: rest => c :: camelChars rest
  | [] => []

/-- The snake case spelling of a camel case name; any other name stays. -/
def toSnake (name : String) : String :=
  if isCamel name.toList then String.ofList (snakeChars name.toList) else name

/-- The camel case spelling of a snake case name; any other name stays. -/
def toCamel (name : String) : String :=
  if isSnake name.toList then String.ofList (camelChars name.toList) else name

/-- The fields that are not carried over. -/
def isDropped (name : String) : Bool := name = Inherited.baseName

mutual

/-- Renames the fields of a value at every level; `keep` says whether the value's own field names are data. -/
def convert (rename : String → String) (preserve : List String) (keep : Bool) : Json → Json
  | .arr items => .arr (convertItems rename preserve items)
  | .obj fields => .obj (Record.ofPairs (convertFields rename preserve keep fields))
  | other => other

def convertItems (rename : String → String) (preserve : List String) : List Json → List Json
  | [] => []
  | item :: rest => convert rename preserve false item :: convertItems rename preserve rest

def convertFields (rename : String → String) (preserve : List String) (keep : Bool) :
    List (String × Json) → List (String × Json)
  | [] => []
  | (name, value) :: rest =>
    let renamed := if keep then name else rename name
    let keepBelow := !keep && (preserve.contains name || preserve.contains renamed)
    let field := (renamed, convert rename preserve keepBelow value)
    let others := convertFields rename preserve keep rest
    if isDropped renamed then others else field :: others

end

/-- The value with its fields in snake case. -/
def snakeKeys (preserve : List String) (value : Json) : Json := convert toSnake preserve false value

/-- The value with its fields in camel case. -/
def camelKeys (preserve : List String) (value : Json) : Json := convert toCamel preserve false value

/-- The fields of an object, and those of the object in its `__proto__` that it has under no spelling of its own. -/
def adopt (rename : String → String) (fields : Record Json) : Record Json :=
  let own := fields.filter fun (name, _) => !isDropped name
  match fields.get? Inherited.baseName with
  | some (.obj base) => own ++ base.filter fun (name, _) => !own.any fun (other, _) => rename other = rename name
  | _ => own

mutual

/-- A value whose objects all have the fields that can be looked up in them. -/
def adopted (rename : String → String) : Json → Json
  | .arr items => .arr (adoptedItems rename items)
  | .obj fields => .obj (adopt rename (adoptedFields rename fields))
  | other => other

def adoptedItems (rename : String → String) : List Json → List Json
  | [] => []
  | item :: rest => adopted rename item :: adoptedItems rename rest

def adoptedFields (rename : String → String) : List (String × Json) → List (String × Json)
  | [] => []
  | (name, value) :: rest => (name, adopted rename value) :: adoptedFields rename rest

end

/-- The value with all that can be looked up in it, in camel case. -/
def camelFields (value : Json) : Json := camelKeys [] (adopted toCamel value)

end QualityGate.KeyCase
