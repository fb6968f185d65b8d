import QualityGate.Json.Plain
import QualityGate.Record.Inherited
import QualityGate.Text.Search
import QualityGate.Text.Units

/-!
# Schemas

A check reads a value out of JSON, or of nothing at all, and collects faults with the path at which each was found. A value that
only breaks a limit is still read, so that its faults do not hide those of its neighbours; `Checked.accepted?` gives the value when
there is no fault.
-/

namespace QualityGate

/-- What is wrong with a value, and where in the whole it stands. -/
structure Fault where
  path : List String
  message : String
  deriving DecidableEq, Repr, Inhabited

/-- What a check has read; no value when it could not go on. -/
structure Checked (α : Type) where
  value : Option α
  faults : List Fault := []
  deriving Inhabited

namespace Checked

variable {α β : Type}

def ok (value : α) : Checked α := ⟨some value, []⟩

/-- Nothing was read. -/
def refused (message : String) : Checked α := ⟨none, [⟨[], message⟩]⟩

/-- A value with one more fault when a condition does not hold. -/
def demand (holds : Bool) (message : String) (c : Checked α) : Checked α :=
  if holds then c else { c with faults := c.faults ++ [⟨[], message⟩] }

/-- The faults seen from the whole of which the value is a part. -/
def below (name : String) (c : Checked α) : Checked α :=
  { c with faults := c.faults.map fun f => { f with path := name :: f.path } }

/-- The value, when it has no fault. -/
def accepted? (c : Checked α) : Option α := if c.faults.isEmpty then c.value else none

def map (f : α → β) (c : Checked α) : Checked β := ⟨c.value.map f, c.faults⟩

/-- Faults of both sides are kept, in order. -/
instance : Applicative Checked where
  pure := ok
  seq f x :=
    let g := f
    let y := x ()
    ⟨g.value.bind fun h => y.value.map h, g.faults ++ y.faults⟩

end Checked

/-- How a value of a type is read. -/
abbrev Check (α : Type) := Option Json → Checked α

namespace Check

variable {α β : Type}

/-- Nothing was given. -/
def missing : String := "Required"

/-- A value of another kind than the expected one. -/
def wrongKind (expected : String) (j : Json) : Checked α := .refused s!"Expected {expected}, received {j.kind}"

/-- Any value that is given. -/
def json : Check Json
  | some j => .ok j
  | none => .refused missing

/-- Any value, or none. -/
def anything : Check (Option Json) := fun j => .ok j

def text : Check String
  | some (.str s) => .ok s
  | some j => wrongKind "string" j
  | none => .refused missing

def bool : Check Bool
  | some (.bool b) => .ok b
  | some j => wrongKind "boolean" j
  | none => .refused missing

def number : Check Number
  | some (.num x) => if x.isNan then wrongKind "number" (.num x) else .ok x
  | some j => wrongKind "number" j
  | none => .refused missing

/-- The number that a value stands for, whatever its kind. -/
def numeral : Check Number := fun j => number (some (.num ((j.map Json.asNumber).getD .nan)))

/-- A value that has to keep a condition. -/
def must (check : Check α) (holds : α → Bool) (message : String) : Check α := fun j =>
  let c := check j
  c.demand (c.value.all holds) message

def nonempty (check : Check String) : Check String :=
  must check (fun s => !s.isEmpty) "String must contain at least 1 character(s)"

def whole (check : Check Number) : Check Number :=
  must check (fun x => x.toInt?.isSome) "Expected integer, received float"

def positive (check : Check Number) : Check Number :=
  must check (fun x => Number.lt 0 x) "Number must be greater than 0"

def atLeast (least : Number) (check : Check Number) : Check Number :=
  must check (fun x => least.le x) s!"Number must be greater than or equal to {least.text}"

def atMost (most : Number) (check : Check Number) : Check Number :=
  must check (fun x => x.le most) s!"Number must be less than or equal to {most.text}"

/-- A whole number that is not negative. -/
def count : Check Number := atLeast 0 (whole number)

/-- A whole number. -/
def integer : Check Int := fun j =>
  let c := whole number j
  ⟨c.value.map fun x => x.toInt?.getD 0, c.faults⟩

/-- One of some names. -/
def oneOf (names : List String) (ofName : String → Option α) : Check α := fun j =>
  let choice := Text.join " | " (names.map fun n => "'" ++ n ++ "'")
  match j with
  | none => .refused missing
  | some (.str s) =>
    match ofName s with
    | some a => .ok a
    | none => .refused s!"Invalid enum value. Expected {choice}, received '{s}'"
  | some j => wrongKind choice j

/-- A text that has to be a given one. -/
def exactly (wanted : String) : Check Unit
  | some (.str s) => if s = wanted then .ok () else .refused "Invalid literal value"
  | _ => .refused "Invalid literal value"

/-- A value that need not be given. -/
def optional (check : Check α) : Check (Option α)
  | none => .ok none
  | some j => (check (some j)).map some

/-- A value that may be null. -/
def nullable (check : Check α) : Check (Option α)
  | some .null => .ok none
  | j => (check j).map some

/-- A value that may be null or left out. -/
def nullish (check : Check α) : Check (Option α)
  | none | some .null => .ok none
  | some j => (check (some j)).map some

/-- A value that stands for one that is not given. -/
def orElse (check : Check α) (default : α) : Check α
  | none => .ok default
  | j => check j

/-- The items of a list, each with its place in the path. -/
def items (check : Check α) : Nat → List Json → Checked (List α)
  | _, [] => .ok []
  | i, j :: rest => List.cons <$> (check (some j)).below (toString i) <*> items check (i + 1) rest

def list (check : Check α) : Check (List α)
  | some (.arr values) => items check 0 values
  | some j => wrongKind "array" j
  | none => .refused missing

/-- The named values of a record, each with its name in the path. A record has no value under the name of its base. -/
def entries (check : Check α) : List (String × Json) → Checked (Record α)
  | [] => .ok []
  | (name, j) :: rest =>
    (fun a r => (name, a) :: r) <$> (check (some j)).below name <*> entries check rest

def record (check : Check α) : Check (Record α)
  | some (.obj fields) => (fun r => r.filter fun (name, _) => name ≠ Inherited.baseName) <$> entries check fields
  | some j => wrongKind "object" j
  | none => .refused missing

/-- A field of an object. -/
def field (fields : Record Json) (name : String) (check : Check α) : Checked α := (check (fields.get? name)).below name

/-- An object, read from its fields. -/
def object (read : Record Json → Checked α) : Check α
  | some (.obj fields) => read fields
  | some j => wrongKind "object" j
  | none => .refused missing

/-- The first of two readings that is in order; else the first that could at least be read. -/
def either (left right : Check α) : Check α := fun j =>
  let a := left j
  let b := right j
  if a.accepted?.isSome then a
  else if b.accepted?.isSome then b
  else if a.value.isSome then a
  else if b.value.isSome then b
  else .refused "Invalid input"

end Check

namespace Text

/-- The place of a fault in words, steps joined by points. -/
def ofPath (path : List String) : String := Text.join "." path

end Text

end QualityGate
