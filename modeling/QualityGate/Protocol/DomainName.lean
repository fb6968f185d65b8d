import QualityGate.Protocol.DomainName.Punycode
import QualityGate.Protocol.DomainName.Table
import QualityGate.Text.Case
import QualityGate.Text.Decomposition

/-!
# Domain names

A domain name may be written in any letters. It is brought to one spelling, in small and plain letters, before its labels are looked
at one by one: a label starts with no mark, its joiners stand where letters join, and it is not read in two directions at once. A
label in ASCII may stand for one in other letters.
-/

namespace QualityGate.DomainName

/-! ## Spelling -/

@[irreducible] def refused : Array (Stretch Unit) := CodeTable.set Table.refused

@[irreducible] def ignored : Array (Stretch Unit) := CodeTable.set Table.ignored

/-- The signs that let letters join, and that keep them apart. -/
def joiner : Nat := 0x200D

def nonJoiner : Nat := 0x200C

/-- The characters that keep their form although they have another one: the sharp s, the final sigma and the two joiners. -/
def keepsForm (code : Nat) : Bool := code = 0xDF || code = 0x3C2 || code = joiner || code = nonJoiner

/-- The plain letters for nine forms of Cyrillic letters. -/
def plainCyrillic : List Nat := [0x432, 0x434, 0x43E, 0x441, 0x442, 0x442, 0x44A, 0x463, 0xA64B]

/-- The small form of a character, which is the capital for Cherokee. The ideographic full stop is one like others. -/
def small (code : Nat) : List Nat :=
  if code = 0x345 then [0x3B9]
  else if code = 0x3C2 then [0x3C3]
  else if code = 0x3002 then [0x2E]
  else if 0x13A0 ≤ code && code ≤ 0x13F5 then [code]
  else if 0x13F8 ≤ code && code ≤ 0x13FD then [code - 8]
  else if 0xAB70 ≤ code && code ≤ 0xABBF then [code - 0xAB70 + 0x13A0]
  else if 0x1C80 ≤ code && code ≤ 0x1C88 then [plainCyrillic.getD (code - 0x1C80) code]
  else (lowerChars (Char.ofNat code)).map Char.toNat

/-- The small and plain characters for some characters. -/
def simplify (codes : List Nat) : List Nat := (codes.flatMap small).flatMap Decomposition.allParts

/-- How a character is spelled in a name; none for one that no name has. -/
def spelling? (code : Nat) : Option (List Nat) :=
  if code < 0x80 then some (small code)
  else if 0x110000 ≤ code || CodeTable.holds refused code then none
  else if CodeTable.holds ignored code then some []
  else if keepsForm code then some [code]
  else some (simplify (simplify (simplify [code])))

/-- The one spelling of a name. -/
def spelled? (name : List Nat) : Option (List Nat) :=
  (name.mapM spelling?).map fun parts => Decomposition.compose parts.flatten

/-! ## Labels -/

@[irreducible] def marks : Array (Stretch Unit) := CodeTable.set Table.marks

@[irreducible] def spacingMarks : Array (Stretch Unit) := CodeTable.set Table.spacingMarks

@[irreducible] def joinBoth : Array (Stretch Unit) := CodeTable.set Table.joinBoth

@[irreducible] def joinNext : Array (Stretch Unit) := CodeTable.set Table.joinNext

@[irreducible] def joinPrevious : Array (Stretch Unit) := CodeTable.set Table.joinPrevious

@[irreducible] def rightToLeft : Array (Stretch Unit) := CodeTable.set Table.rightToLeft

@[irreducible] def arabicNumbers : Array (Stretch Unit) := CodeTable.set Table.arabicNumbers

@[irreducible] def numbers : Array (Stretch Unit) := CodeTable.set Table.numbers

@[irreducible] def neutral : Array (Stretch Unit) := CodeTable.set Table.neutral

def isMark (code : Nat) : Bool := CodeTable.holds marks code || CodeTable.holds spacingMarks code

def isJoiner (code : Nat) : Bool := code = joiner || code = nonJoiner

/-- The combining class of the signs that take a letter's vowel away. -/
def viramaClass : Nat := 9

/-- Whether the first joiner of a label stands where it may: after a sign that takes a vowel away, or, if it keeps letters apart,
where there are letters that join before it and behind it. -/
def joinerStands? (label : List Nat) : Option Bool :=
  let before := label.takeWhile (!isJoiner ·)
  match label.dropWhile (!isJoiner ·) with
  | [] => none
  | sign :: after => some <|
    before.getLast?.any (fun code => Decomposition.combiningClass code = viramaClass) ||
      sign = nonJoiner && (before.any fun code => CodeTable.holds joinBoth code || CodeTable.holds joinNext code) &&
        after.any fun code => CodeTable.holds joinBoth code || CodeTable.holds joinPrevious code

/-- In which direction a character is read. -/
inductive Direction where
  | left | right | number | arabicNumber | mark | neutral
  deriving DecidableEq, Repr, Inhabited

def direction (code : Nat) : Direction :=
  if CodeTable.holds rightToLeft code then .right
  else if CodeTable.holds arabicNumbers code then .arabicNumber
  else if CodeTable.holds numbers code then .number
  else if CodeTable.holds marks code then .mark
  else if CodeTable.holds neutral code then .neutral
  else .left

/-- Whether a label is read in one direction: if from right to left, it has nothing to be read from the left, its numbers are all of
one kind, and it ends in a letter or a number. -/
def hasOneDirection (label : List Nat) : Bool :=
  let directions := label.map direction
  if directions.contains .right || directions.contains .arabicNumber then
    !directions.contains .left && !(directions.contains .number && directions.contains .arabicNumber) &&
      (directions.filter (· ≠ .mark)).getLast? != some .neutral
  else true

/-- Whether a label in its one spelling is in order. -/
def isGoodLabel (label : List Nat) : Bool :=
  match label with
  | [] => false
  | first :: _ => !isMark first && (joinerStands? label).getD (hasOneDirection label)

def isAscii (label : List Nat) : Bool := label.all (· < 0x80)

/-- What a label in ASCII that stands for another one starts with. -/
def lead : List Nat := "xn--".toList.map Char.toNat

/-- Whether the text after `lead` stands for a label that is in order, and that is written in no other way. -/
def isGoodCode (text : List Nat) : Bool :=
  match Punycode.decode? (text.map Char.ofNat) with
  | none => false
  | some label => !isAscii label && spelled? label == some label && isGoodLabel label

/-- Whether a part of a name in its one spelling is in order. -/
def isGoodPart (label : List Nat) : Bool :=
  if lead.isPrefixOf label then isAscii label && isGoodCode (label.drop lead.length)
  else isAscii label || isGoodLabel label

/-- The name that a text in any letters spells, when all parts of it are in order. -/
def ofText? (text : List Char) : Option (List Char) :=
  (spelled? (text.map Char.toNat)).bind fun name =>
    if (splitWhere (· = '.'.toNat) name).all isGoodPart then some (name.map Char.ofNat) else none

end QualityGate.DomainName
