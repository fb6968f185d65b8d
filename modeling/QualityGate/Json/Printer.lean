import QualityGate.Json

/-!
# Writing JSON text

`Json.compact` writes a value with no blanks, `Json.pretty` with one line per item and two blanks of indentation per level. A
number that is no finite number is written as null.
-/

namespace QualityGate.Json

/-- A lower-case hexadecimal digit. -/
def hexDigit (n : Nat) : Char := Nat.digitChar n

/-- A character as it stands between quotes. -/
def escape (c : Char) : List Char :=
  if c = '"' then ['\\', '"']
  else if c = '\\' then ['\\', '\\']
  else if c = '\n' then ['\\', 'n']
  else if c = '\r' then ['\\', 'r']
  else if c = '\t' then ['\\', 't']
  else if c = '\x08' then ['\\', 'b']
  else if c = '\x0c' then ['\\', 'f']
  else if c.toNat < 0x20 then ['\\', 'u', '0', '0', hexDigit (c.toNat / 16), hexDigit (c.toNat % 16)]
  else [c]

/-- A text between quotes. -/
def quoted (s : String) : List Char := '"' :: (s.toList.flatMap escape ++ ['"'])

/-- A number; one that is not finite has no numeral and is written as null. -/
def numeral (x : Number) : List Char := if x.isFinite then x.text.toList else "null".toList

/-- Pieces with a separator between them. -/
def separated (separator : List Char) (pieces : List (List Char)) : List Char := List.intercalate separator pieces

mutual

/-- The text of a value with no blanks. -/
def compactChars : Json → List Char
  | null => "null".toList
  | bool b => if b then "true".toList else "false".toList
  | num x => numeral x
  | str s => quoted s
  | arr items => '[' :: (separated [','] (compactItems items) ++ [']'])
  | obj fields => '\x7b' :: (separated [','] (compactFields fields) ++ ['\x7d'])

def compactItems : List Json → List (List Char)
  | [] => []
  | item :: rest => compactChars item :: compactItems rest

def compactFields : List (String × Json) → List (List Char)
  | [] => []
  | (name, value) :: rest => (quoted name ++ ':' :: compactChars value) :: compactFields rest

end

/-- The start of a new line at a level of indentation. -/
def newLine (level : Nat) : List Char := '\n' :: List.replicate (2 * level) ' '

/-- The items of a list or an object, one per line, between its brackets. -/
def bracketed (opening closing : Char) (level : Nat) (pieces : List (List Char)) : List Char :=
  if pieces.isEmpty then [opening, closing]
  else opening :: newLine (level + 1) ++ separated (',' :: newLine (level + 1)) pieces ++ newLine level ++ [closing]

mutual

/-- The text of a value at a level of indentation, one item per line. -/
def prettyChars (level : Nat) : Json → List Char
  | null => "null".toList
  | bool b => if b then "true".toList else "false".toList
  | num x => numeral x
  | str s => quoted s
  | arr items => bracketed '[' ']' level (prettyItems (level + 1) items)
  | obj fields => bracketed '\x7b' '\x7d' level (prettyFields (level + 1) fields)

def prettyItems (level : Nat) : List Json → List (List Char)
  | [] => []
  | item :: rest => prettyChars level item :: prettyItems level rest

def prettyFields (level : Nat) : List (String × Json) → List (List Char)
  | [] => []
  | (name, value) :: rest => (quoted name ++ ':' :: ' ' :: prettyChars level value) :: prettyFields level rest

end

/-- The text of a value with no blanks. -/
def compact (j : Json) : String := String.ofList (compactChars j)

/-- The text of a value with one item per line. -/
def pretty (j : Json) : String := String.ofList (prettyChars 0 j)

end QualityGate.Json
