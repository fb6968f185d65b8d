/-!
# Finding text in text

Where one text stands in another, by character.
-/

namespace QualityGate

/-- Where a text first stands in another, counted in characters. -/
def indexOf? (needle : List Char) : List Char → Option Nat
  | [] => if needle.isEmpty then some 0 else none
  | c :: rest => if needle.isPrefixOf (c :: rest) then some 0 else (indexOf? needle rest).map (· + 1)

/-- Whether a text stands in another. -/
def contains (text needle : List Char) : Bool := (indexOf? needle text).isSome

/-- Where a character last stands in a text. -/
def lastIndexOf? (c : Char) (text : List Char) : Option Nat :=
  (text.reverse.findIdx? (· = c)).map fun fromEnd => text.length - 1 - fromEnd

/-- How often a text stands in another, from left to right without overlap. -/
def countOf (needle : List Char) : Nat → List Char → Nat
  | 0, _ => 0
  | fuel + 1, text =>
    match indexOf? needle text with
    | none => 0
    | some at_ => 1 + countOf needle fuel (text.drop (at_ + needle.length))

/-- The pieces of a text between the places where a separator stands. -/
def splitAtText (separator : List Char) : Nat → List Char → List (List Char)
  | 0, text => [text]
  | fuel + 1, text =>
    match indexOf? separator text with
    | none => [text]
    | some at_ => text.take at_ :: splitAtText separator fuel (text.drop (at_ + separator.length))

namespace Text

/-- Whether a text stands in another. -/
def has (text needle : String) : Bool := contains text.toList needle.toList

/-- Whether a text starts with another. -/
def starts (text lead : String) : Bool := lead.toList.isPrefixOf text.toList

/-- Whether a text ends with another. -/
def ends (text tail : String) : Bool := tail.toList.isSuffixOf text.toList

/-- The text with every occurrence of a character replaced by another. -/
def swapChar (text : String) (old new : Char) : String :=
  String.ofList (text.toList.map fun c => if c = old then new else c)

/-- The pieces of a text between occurrences of a separator that is not empty. -/
def split (text separator : String) : List String :=
  (splitAtText separator.toList (text.toList.length + 1) text.toList).map String.ofList

/-- The pieces of a text joined by a separator. -/
def join (separator : String) (pieces : List String) : String := String.intercalate separator pieces

end Text

end QualityGate
