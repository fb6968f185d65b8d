import QualityGate.Source.Scan

/-!
# Blocks of code

Where the first block of a text ends, without knowing its toolchain: text and character literals and comments are passed over, and
braces are counted in what is left.
-/

namespace QualityGate

namespace Block

/-- The characters after the next line feed. -/
def afterLine (text : List Char) : List Char := (text.dropWhile (· ≠ '\n')).drop 1

/-- The characters after the next end of a block comment. -/
def afterComment : List Char → List Char
  | '*' :: '/' :: rest => rest
  | _ :: rest => afterComment rest
  | [] => []

/-- The characters after the next closing quote; a backslash takes the character after it along. -/
def afterQuote (quote : Char) : List Char → List Char
  | [] => []
  | '\\' :: _ :: rest => afterQuote quote rest
  | c :: rest => if c = quote then rest else afterQuote quote rest

/-- The length of a character literal at the start of a text. -/
def charLength? : List Char → Option Nat
  | '\'' :: '\\' :: c :: '\'' :: _ => if Scan.isSingle c && !isLineEnd c then some 4 else none
  | '\'' :: c :: '\'' :: _ => if Scan.isSingle c && c ≠ '\\' && c ≠ '\'' && c ≠ '\n' then some 3 else none
  | _ => none

/-- What follows a literal or a comment that opens at the start of a text. -/
def pass? : List Char → Option (List Char)
  | '/' :: '/' :: rest => some (afterLine rest)
  | '/' :: '*' :: rest => some (afterComment rest)
  | c :: rest =>
    if c = '"' ∨ c = '`' then some (afterQuote c rest)
    else (charLength? (c :: rest)).map fun length => (c :: rest).drop length
  | [] => none

/-- The text after the brace that closes the first block of a text, `depth` braces being open and `opened` telling whether any
has been. -/
def rest? : Nat → Int → Bool → List Char → Option (List Char)
  | 0, _, _, _ => none
  | _, _, _, [] => none
  | fuel + 1, depth, opened, c :: rest =>
    match pass? (c :: rest) with
    | some after => rest? fuel depth opened after
    | none =>
      if c = '\x7b' then rest? fuel (depth + 1) true rest
      else if c = '\x7d' then
        if opened && depth - 1 = 0 then some rest else rest? fuel (depth - 1) opened rest
      else rest? fuel depth opened rest

end Block

/-- The text after the first block of a text. -/
def afterBlock? (text : List Char) : Option (List Char) := Block.rest? (text.length + 1) 0 false text

/-- How many characters of a text the first block from a place on takes it to. -/
def blockEnd? (content : List Char) (start : Nat) : Option Nat :=
  (afterBlock? (content.drop start)).map fun rest => content.length - rest.length

end QualityGate
