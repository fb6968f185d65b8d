import QualityGate.Count
import QualityGate.Text.Blank

/-!
# Sixteen-bit units

Columns, offsets and cuts count a character outside the basic plane as two, and plain sorting compares texts unit by unit.
-/

namespace QualityGate

/-- How many units a character takes. -/
def unitsOf (c : Char) : Nat := if c.toNat < 0x10000 then 1 else 2

/-- How many units a text takes. -/
def units (text : List Char) : Nat := total (text.map unitsOf)

/-- The characters that fit wholly into the first `n` units. -/
def takeUnits : Nat → List Char → List Char
  | _, [] => []
  | n, c :: rest => if unitsOf c ≤ n then c :: takeUnits (n - unitsOf c) rest else []

/-- What follows the first `n` units. -/
def dropUnits : Nat → List Char → List Char
  | _, [] => []
  | n, c :: rest => if n = 0 then c :: rest else dropUnits (n - unitsOf c) rest

/-- The units of a character. -/
def unitList (c : Char) : List Nat :=
  let n := c.toNat
  if n < 0x10000 then [n] else [0xD800 + (n - 0x10000) / 0x400, 0xDC00 + (n - 0x10000) % 0x400]

/-- The units of a text. -/
def unitSequence (text : List Char) : List Nat := text.flatMap unitList

/-- The order of two lists by the first place where they differ, the shorter one first. -/
def lexOrder : List Nat → List Nat → Ordering
  | [], [] => .eq
  | [], _ :: _ => .lt
  | _ :: _, [] => .gt
  | a :: as, b :: bs => if a < b then .lt else if b < a then .gt else lexOrder as bs

/-- The order of texts by units. -/
def unitOrder (a b : String) : Ordering := lexOrder (unitSequence a.toList) (unitSequence b.toList)

/-- Sorts by an order and keeps the places of equals. -/
def sortBy {α : Type} (order : α → α → Ordering) (items : List α) : List α :=
  items.mergeSort fun a b => (order a b).isLE

/-- Texts in the order of their units. -/
def sortTexts (texts : List String) : List String := sortBy unitOrder texts

/-- The items of a list without those that stand earlier in it. -/
def distinct {α : Type} [BEq α] (items : List α) : List α :=
  items.foldl (fun kept x => if kept.contains x then kept else kept ++ [x]) []

end QualityGate
