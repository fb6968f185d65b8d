/-!
# Blanks and lines

The white space that texts are trimmed of and split at: the ASCII blanks, the no-break space, the byte order mark, the space
separators and the two separators of lines and paragraphs. Lines end at a line feed alone.
-/

namespace QualityGate

/-- White space, line ends included. -/
def isBlank (c : Char) : Bool :=
  let n := c.toNat
  (9 ≤ n && n ≤ 13) || n = 0x20 || n = 0xA0 || n = 0x1680 || (0x2000 ≤ n && n ≤ 0x200A) || n = 0x2028 || n = 0x2029 ||
    n = 0x202F || n = 0x205F || n = 0x3000 || n = 0xFEFF

/-- The characters that end a line for a pattern that reads one line. -/
def isLineEnd (c : Char) : Bool :=
  c = '\n' || c = '\r' || c.toNat = 0x2028 || c.toNat = 0x2029

/-- The text without its leading blanks. -/
def trimStart (text : List Char) : List Char := text.dropWhile isBlank

/-- The text without its trailing blanks. -/
def trimEnd (text : List Char) : List Char := (text.reverse.dropWhile isBlank).reverse

/-- The text without the blanks around it. -/
def trim (text : List Char) : List Char := trimEnd (trimStart text)

/-- The leading blanks of a text. -/
def leadingBlanks (text : List Char) : List Char := text.takeWhile isBlank

/-- The pieces of a list between the items that pass a test; there is always at least one. -/
def splitWhere {α : Type} (isSeparator : α → Bool) : List α → List (List α)
  | [] => [[]]
  | item :: rest =>
    if isSeparator item then [] :: splitWhere isSeparator rest
    else
      match splitWhere isSeparator rest with
      | [] => [[item]]
      | piece :: pieces => (item :: piece) :: pieces

/-- The lines of a text, without their line feeds. -/
def splitLines (text : List Char) : List (List Char) := splitWhere (· = '\n') text

/-- Lines joined by line feeds. -/
def joinLines (lines : List (List Char)) : List Char := List.intercalate ['\n'] lines

/-- The pieces of a text between runs of blanks; a blank at an end leaves an empty piece there. -/
def splitBlanks (text : List Char) : List (List Char) :=
  let pieces := splitWhere isBlank text
  let inner := (pieces.drop 1).dropLast
  if pieces.length ≤ 1 then pieces
  else pieces.take 1 ++ inner.filter (!·.isEmpty) ++ pieces.drop (pieces.length - 1)

end QualityGate
