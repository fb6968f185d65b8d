import QualityGate.Number
import QualityGate.Record

/-!
# Names that every record answers to

A record answers to a few names without their having been set, each with a function, and to `__proto__` with the record that the
functions come from. A look-up that finds nothing under a name falls back on these answers before it falls back on a default, and
setting `__proto__` sets no field.
-/

namespace QualityGate

/-- What a record answers to a name that was never set. -/
inductive Inherited where
  | function (name : String)
  | base
  deriving DecidableEq, Repr, Inhabited

namespace Inherited

/-- The name of the record that the functions come from. -/
def baseName : String := "__proto__"

/-- The names of the functions that every record has. -/
def functionNames : List String :=
  ["toString", "valueOf", "hasOwnProperty", "isPrototypeOf", "propertyIsEnumerable", "toLocaleString", "__defineGetter__",
   "__defineSetter__", "__lookupGetter__", "__lookupSetter__"]

/-- What every record answers to a name. -/
def ofName? (name : String) : Option Inherited :=
  if name = baseName then some base
  else if name = "constructor" then some (function "Object")
  else if functionNames.contains name then some (function name)
  else none

/-- How an answer reads in running text. -/
def text : Inherited → String
  | function name => s!"function {name}() \x7b [native code] \x7d"
  | base => "[object Object]"

end Inherited

namespace Record

variable {α : Type}

/-- The record with a value under a name, but for the one name that cannot be set. -/
def assign (r : Record α) (name : String) (value : α) : Record α :=
  if name = Inherited.baseName then r else r.set name value

/-- The record that results from assigning pairs in turn. -/
def assignAll (pairs : List (String × α)) : Record α := pairs.foldl (fun r (name, value) => r.assign name value) []

/-- The number under a name, or a default. An inherited answer is no number. -/
def numberOr (r : Record Number) (name : String) (default : Number) : Number :=
  match r.get? name with
  | some x => x
  | none => if (Inherited.ofName? name).isSome then .nan else default

end Record

end QualityGate
