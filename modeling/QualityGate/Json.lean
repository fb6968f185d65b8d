import QualityGate.Number.Reading
import QualityGate.Record

/-!
# JSON values

A value is null, a truth value, a number, a text, a list or an object whose fields have an order. `Encode` and `Decode` give the
objects that the program's own types are written as.
-/

namespace QualityGate

/-- A JSON value. -/
inductive Json where
  | null
  | bool (value : Bool)
  | num (value : Number)
  | str (value : String)
  | arr (items : List Json)
  | obj (fields : List (String × Json))
  deriving Inhabited

namespace Json

mutual

/-- Whether two values are the same, the order of fields included. -/
def beq : Json → Json → Bool
  | null, null => true
  | bool a, bool b => a == b
  | num x, num y => x == y
  | str s, str t => s == t
  | arr items, arr others => beqItems items others
  | obj fields, obj others => beqFields fields others
  | _, _ => false

def beqItems : List Json → List Json → Bool
  | [], [] => true
  | item :: rest, other :: others => beq item other && beqItems rest others
  | _, _ => false

def beqFields : List (String × Json) → List (String × Json) → Bool
  | [], [] => true
  | (name, value) :: rest, (other, value') :: others => name == other && beq value value' && beqFields rest others
  | _, _ => false

end

instance : BEq Json := ⟨beq⟩

/-- The value under a field's name. -/
def get? (name : String) : Json → Option Json
  | obj fields => fields.lookup name
  | _ => none

def str? : Json → Option String
  | str s => some s
  | _ => none

def num? : Json → Option Number
  | num x => some x
  | _ => none

def bool? : Json → Option Bool
  | bool b => some b
  | _ => none

def arr? : Json → Option (List Json)
  | arr items => some items
  | _ => none

def fields? : Json → Option (Record Json)
  | obj fields => some fields
  | _ => none

/-- The object with the given fields, in record order. -/
def record (fields : List (String × Json)) : Json := obj (Record.ofPairs fields)

/-- The object with those of the given fields that are present. -/
def present (fields : List (String × Option Json)) : Json :=
  obj (fields.filterMap fun (name, value) => value.map (name, ·))

/-- The list of texts. -/
def strings (texts : List String) : Json := arr (texts.map str)

/-- The number of a count. -/
def nat (n : Nat) : Json := num (Number.ofNat n)

def int (i : Int) : Json := num (Number.ofInt i)

end Json

/-- A type whose values are written as JSON. -/
class Encode (α : Type) where
  encode : α → Json

/-- A type whose values are read from JSON. -/
class Decode (α : Type) where
  decode? : Json → Option α

export Encode (encode)
export Decode (decode?)

instance : Encode Json := ⟨id⟩
instance : Encode Bool := ⟨.bool⟩
instance : Encode Number := ⟨.num⟩
instance : Encode Nat := ⟨.nat⟩
instance : Encode Int := ⟨.int⟩
instance : Encode String := ⟨.str⟩
instance {α : Type} [Encode α] : Encode (List α) := ⟨fun xs => .arr (xs.map encode)⟩
instance {α : Type} [Encode α] : Encode (Option α) := ⟨fun x => (x.map encode).getD .null⟩
instance {α β : Type} [Encode α] [Encode β] : Encode (α × β) := ⟨fun (a, b) => .arr [encode a, encode b]⟩

instance : Decode Json := ⟨some⟩
instance : Decode Bool := ⟨Json.bool?⟩
instance : Decode Number := ⟨Json.num?⟩
instance : Decode Nat := ⟨fun j => j.num?.bind Number.toNat?⟩
instance : Decode Int := ⟨fun j => j.num?.bind Number.toInt?⟩
instance : Decode String := ⟨Json.str?⟩
instance {α : Type} [Decode α] : Decode (List α) := ⟨fun j => j.arr?.bind fun xs => xs.mapM decode?⟩

/-- Null stands for an absent value. -/
instance {α : Type} [Decode α] : Decode (Option α) :=
  ⟨fun
    | .null => some none
    | j => (decode? j).map some⟩

instance {α β : Type} [Decode α] [Decode β] : Decode (α × β) :=
  ⟨fun
    | .arr [a, b] => do return (← decode? a, ← decode? b)
    | _ => none⟩

namespace Json

/-- A record of values of one type. -/
def decodeRecord? {α : Type} [Decode α] (j : Json) : Option (Record α) :=
  j.fields?.bind fun fields => fields.mapM fun (name, value) => (decode? value).map (name, ·)

/-- The decoded value of a field; null and an absent field are alike. -/
def field? {α : Type} [Decode α] (j : Json) (name : String) : Option α :=
  match j.get? name with
  | none | some .null => decode? .null
  | some value => decode? value

/-- The decoded value of a field, or a default when it is absent or null. -/
def fieldD {α : Type} [Decode α] (j : Json) (name : String) (default : α) : α :=
  match j.get? name with
  | none | some .null => default
  | some value => (decode? value).getD default

end Json

end QualityGate
