import QualityGate.Json.Plain
import QualityGate.Record.Inherited

/-!
# Figures under names

What a look-up by name gives where a number is expected: the number, an answer that every record gives, or the text that counting on
from such an answer leads to.
-/

namespace QualityGate

/-- What stands under a name where a number is expected. -/
inductive Figure where
  | number (x : Number)
  | text (s : String)
  | inherited (answer : Inherited)
  deriving DecidableEq, Inhabited

namespace Figure

instance : Coe Number Figure := ⟨number⟩

/-- The number that a figure stands for, not a number where it stands for none. -/
def value : Figure → Number
  | number x => x
  | text s => Number.ofText s
  | inherited _ => .nan

/-- A figure in running text. -/
def shown : Figure → String
  | number x => x.text
  | text s => s
  | inherited answer => answer.text

/-- A figure with a number of decimal places. -/
def fixed (places : Nat) : Figure → String
  | number x => x.fixed places
  | f => f.shown

/-- A figure in an answer; a function has no place there. -/
def json? : Figure → Option Json
  | number x => some (.num x)
  | text s => some (.str s)
  | inherited .base => some (.obj [])
  | inherited (.function _) => none

/-- The figure in a list, where null stands for what has no place in an answer. -/
instance : Encode Figure := ⟨fun f => (json? f).getD .null⟩

instance : Decode Figure :=
  ⟨fun
    | .num x => some (number x)
    | other => some (text other.plain)⟩

/-- The figure after one more has been counted: a text grows by a one at its end. -/
def next : Figure → Figure
  | number x => number (x + 1)
  | f => text (f.shown ++ "1")

/-- Records of figures as objects. -/
def recordJson (r : Record Figure) : Json :=
  .obj (r.filterMap fun (name, f) => (json? f).map (name, ·))

end Figure

namespace Record

/-- The figure under a name, or what every record answers to it. -/
def figure? (r : Record Figure) (name : String) : Option Figure :=
  match r.get? name with
  | some f => some f
  | none => (Inherited.ofName? name).map .inherited

/-- One more is counted under a name. -/
def count (r : Record Figure) (name : String) : Record Figure :=
  r.assign name ((r.figure? name).getD (.number 0)).next

end Record

end QualityGate
