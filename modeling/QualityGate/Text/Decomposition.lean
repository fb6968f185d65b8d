import QualityGate.Text.CodeTable
import QualityGate.Text.Decomposition.Table

/-!
# Decomposition and normal forms

A character may be made of others: a letter with an accent of the letter and the accent, a ligature of its letters. A text is
decomposed when no character is left that is one with its parts and when marks stand in the order of their combining classes;
it is composed when its marks are put together again with the letters before them.
-/

namespace QualityGate.Decomposition

/-- In which way a character is like the characters it is made of. Those of the first kind are one with their parts, the others
differ from them in form. -/
inductive Likeness where
  | canonical | compatible | styled | unbroken | initialForm | medialForm | finalForm | isolatedForm
  | circled | raised | lowered | upright | wide | narrow | small | squared | fraction
  deriving DecidableEq

/-- The characters made of others, each stretch with the parts of its first character; where the parts are one character, its
neighbours are the parts of the next characters. -/
@[irreducible] def decomposed : Array (Stretch (Likeness × List Nat)) :=
  Stretch.sorted <|
    [(.canonical, Table.canonical), (.compatible, Table.compatible), (.styled, Table.styled), (.unbroken, Table.unbroken),
     (.initialForm, Table.initialForms), (.medialForm, Table.medialForms), (.finalForm, Table.finalForms),
     (.isolatedForm, Table.isolatedForms), (.circled, Table.circled), (.raised, Table.raised), (.lowered, Table.lowered),
     (.upright, Table.upright), (.wide, Table.wide), (.narrow, Table.narrow), (.small, Table.small), (.squared, Table.squared),
     (.fraction, Table.fractions)].flatMap
      fun (likeness, text) => CodeTable.consecutive (fun word => (likeness, CodeTable.codes word)) text

/-- The letters of a Hangul syllable. -/
def syllable? (code : Nat) : Option (List Nat) :=
  if 0xAC00 ≤ code && code < 0xAC00 + 11172 then
    let place := code - 0xAC00
    let vowelled := [0x1100 + place / 588, 0x1161 + place % 588 / 28]
    some (if place % 28 = 0 then vowelled else vowelled ++ [0x11A7 + place % 28])
  else none

/-- The parts that a character is made of, and in which way. -/
def parts? (code : Nat) : Option (Likeness × List Nat) :=
  match syllable? code with
  | some letters => some (.canonical, letters)
  | none =>
    (Stretch.find? decomposed code).map fun s =>
      match s.entry with
      | (likeness, [part]) => (likeness, [part + (code - s.first)])
      | entry => entry

/-- A code with its parts in its place, and their parts in theirs, as often as told. -/
def expand (split : Nat → Option (List Nat)) : Nat → Nat → List Nat
  | 0, code => [code]
  | depth + 1, code =>
    match split code with
    | none => [code]
    | some parts => parts.flatMap (expand split depth)

/-- How deep parts of parts are nested at most. -/
def depth : Nat := 8

/-- The characters that a character is one with. -/
def canonicalParts (code : Nat) : List Nat :=
  expand (fun c => match parts? c with | some (.canonical, parts) => some parts | _ => none) depth code

/-- The characters that a character is like. -/
def allParts (code : Nat) : List Nat := expand (fun c => (parts? c).map (·.2)) depth code

/-- The characters of a combining class other than zero. -/
@[irreducible] def combiningClasses : Array (Stretch Nat) :=
  Stretch.sorted (Table.combiningClasses.flatMap fun (number, text) => CodeTable.ranges number text)

/-- The combining class of a character, zero for one that starts a group. -/
def combiningClass (code : Nat) : Nat :=
  if code < 0x300 then 0 else ((Stretch.find? combiningClasses code).map (·.entry)).getD 0

/-- Puts a mark into its place among the marks at the start of a text in order. -/
def settle (code : Nat) : List Nat → List Nat
  | [] => [code]
  | next :: rest =>
    if 0 < combiningClass next && combiningClass next < combiningClass code then next :: settle code rest
    else code :: next :: rest

/-- The marks after each character in the order of their combining classes. -/
def arrange : List Nat → List Nat
  | [] => []
  | code :: rest => settle code (arrange rest)

/-- The decomposed form of a text. -/
def decompose (text : List Nat) : List Nat := arrange (text.flatMap canonicalParts)

/-- The decomposed form of a text whose characters are all replaced by the plain ones they are like. -/
def decomposeAll (text : List Nat) : List Nat := arrange (text.flatMap allParts)

/-- The characters made of two that are not put together again. -/
@[irreducible] def uncomposed : Array (Stretch Unit) := CodeTable.set Table.uncomposed

/-- The characters that are put together from two, in the order of the first of the two. -/
@[irreducible] def composites : Array (Stretch (List (Nat × Nat))) :=
  let pairs := decomposed.toList.filterMap fun s =>
    match s.entry with
    | (.canonical, [a, b]) => if CodeTable.holds uncomposed s.first then none else some (a, b, s.first)
    | _ => none
  let step (groups : List (Stretch (List (Nat × Nat)))) (pair : Nat × Nat × Nat) :=
    match groups with
    | group :: earlier =>
      if group.first = pair.1 then { group with entry := pair.2 :: group.entry } :: earlier
      else ⟨pair.1, 1, [pair.2]⟩ :: groups
    | [] => [⟨pair.1, 1, [pair.2]⟩]
  ((pairs.mergeSort fun a b => a.1 ≤ b.1).foldl step []).reverse.toArray

/-- The character that two are put together to. -/
def composite? (a b : Nat) : Option Nat :=
  if 0x1100 ≤ a && a < 0x1113 && 0x1161 ≤ b && b < 0x1176 then some (0xAC00 + ((a - 0x1100) * 21 + (b - 0x1161)) * 28)
  else if 0xAC00 ≤ a && a < 0xAC00 + 11172 && (a - 0xAC00) % 28 = 0 && 0x11A7 < b && b < 0x11C3 then some (a + (b - 0x11A7))
  else (Stretch.find? composites a).bind fun group => group.entry.lookup b

/-- Puts what follows a character together with it, where no mark of the same or a higher class stands between; `kept` holds the
marks since the character in reverse, and `last` the class of the last of them. -/
def composeFrom (start : Nat) (kept : List Nat) (last : Nat) : List Nat → List Nat
  | [] => start :: kept.reverse
  | code :: rest =>
    let number := combiningClass code
    match if kept.isEmpty || last < number then composite? start code else none with
    | some whole => composeFrom whole kept last rest
    | none =>
      if number = 0 then start :: kept.reverse ++ composeFrom code [] 0 rest
      else composeFrom start (code :: kept) number rest

/-- The composed form of a text. -/
def compose (text : List Nat) : List Nat :=
  match decompose text with
  | [] => []
  | code :: rest => composeFrom code [] 0 rest

end QualityGate.Decomposition
