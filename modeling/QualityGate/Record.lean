import QualityGate.Text.Units

/-!
# Records

A record maps names to values and lists them in a fixed order: names that are whole numbers first, in ascending order, then the
others in the order in which they were first set. Setting a name again keeps its place.
-/

namespace QualityGate

/-- Named values in listing order. -/
abbrev Record (α : Type) := List (String × α)

namespace Record

variable {α β : Type}

/-- The number a name spells, when it is written as a list index is: digits with no leading zero, small enough for an index. -/
def index? (name : String) : Option Nat :=
  let ds := name.toList
  if ds.isEmpty ∨ ¬ ds.all Char.isDigit ∨ (ds.head? = some '0' ∧ ds.length ≠ 1) ∨ 10 < ds.length then none
  else
    let n := ds.foldl (fun total c => total * 10 + (c.toNat - '0'.toNat)) 0
    if n < 4294967295 then some n else none

/-- The value under a name. -/
def get? (r : Record α) (name : String) : Option α := r.lookup name

/-- Puts a new name that is an index among the other indices, in ascending order. -/
def insertIndex (n : Nat) (name : String) (value : α) : Record α → Record α
  | [] => [(name, value)]
  | (other, v) :: rest =>
    match index? other with
    | some m => if m < n then (other, v) :: insertIndex n name value rest else (name, value) :: (other, v) :: rest
    | none => (name, value) :: (other, v) :: rest

/-- Replaces the value under a name that is present. -/
def replace (name : String) (value : α) (r : Record α) : Record α :=
  r.map fun (n, v) => if n = name then (n, value) else (n, v)

/-- The record with a value under a name. -/
def set (r : Record α) (name : String) (value : α) : Record α :=
  if (r.get? name).isSome then replace name value r
  else
    match index? name with
    | some n => insertIndex n name value r
    | none => r ++ [(name, value)]

/-- The record that results from setting pairs in turn. -/
def ofPairs (pairs : List (String × α)) : Record α := pairs.foldl (fun r (name, value) => r.set name value) []

def keys (r : Record α) : List String := r.map (·.1)

def values (r : Record α) : List α := r.map (·.2)

def mapValues (f : α → β) (r : Record α) : Record β := r.map fun (name, value) => (name, f value)

end Record

/-- Groups items by a key, keys in order of first appearance, items in their own order. -/
def groupBy {α κ : Type} [BEq κ] (key : α → κ) (items : List α) : List (κ × List α) :=
  items.foldl (fun groups x =>
    if groups.any (fun g => g.1 == key x) then
      groups.map fun g => if g.1 == key x then (g.1, g.2 ++ [x]) else g
    else groups ++ [(key x, [x])]) []

end QualityGate
