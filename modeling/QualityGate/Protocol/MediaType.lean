import QualityGate.Text.Case

/-!
# Media types

The type of a body as a header gives it: two words with a slash between them, in any case, and parameters after semicolons. A header
with a malformed parameter gives no type.
-/

namespace QualityGate.MediaType

/-- A character of a word. -/
def isWordChar (c : Char) : Bool := c.isAlphanum || "!#$%&'*+.^_|~-\x60".toList.contains c

/-- A character between quotes that stands for itself. -/
def isPlain (c : Char) : Bool :=
  let n := c.toNat
  n = 0x0B || n = 0x20 || n = 0x21 || (0x23 ≤ n && n ≤ 0x5B) || (0x5D ≤ n && n ≤ 0x7E) || (0x80 ≤ n && n ≤ 0xFF)

/-- A character that may follow a backslash between quotes. -/
def isEscaped (c : Char) : Bool := c.toNat = 0x0B || (0x20 ≤ c.toNat && c.toNat ≤ 0xFF)

/-- What follows a text in quotes, given what follows its first quote. -/
def afterQuoted? : List Char → Option (List Char)
  | '"' :: rest => some rest
  | '\\' :: c :: rest => if isEscaped c then afterQuoted? rest else none
  | c :: rest => if isPlain c then afterQuoted? rest else none
  | [] => none

/-- What follows a word. -/
def afterWord? (text : List Char) : Option (List Char) :=
  if text.head?.any isWordChar then some (text.dropWhile isWordChar) else none

def skipSpaces (text : List Char) : List Char := text.dropWhile (· = ' ')

/-- What follows a parameter and the spaces after it. -/
def afterParameter? (text : List Char) : Option (List Char) :=
  match text with
  | ';' :: rest =>
    match afterWord? (skipSpaces rest) with
    | some ('=' :: '"' :: value) => (afterQuoted? value).map skipSpaces
    | some ('=' :: value) => (afterWord? value).map skipSpaces
    | _ => none
  | _ => none

/-- Whether a text is parameters and nothing else, given at least as many steps as there are parameters. -/
def areParameters : Nat → List Char → Bool
  | _, [] => true
  | 0, _ => false
  | steps + 1, text => (afterParameter? text).any (areParameters steps)

/-- The type in a header, in small letters. -/
def ofText? (header : String) : Option String :=
  let text := header.toList
  let type := trim (text.takeWhile (· ≠ ';'))
  match splitWhere (· = '/') type with
  | [a, b] =>
    if !a.isEmpty && a.all isWordChar && !b.isEmpty && b.all isWordChar && areParameters text.length (text.dropWhile (· ≠ ';')) then
      some (Text.lower (String.ofList type))
    else none
  | _ => none

end QualityGate.MediaType
