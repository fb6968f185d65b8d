import QualityGate.Text.Search
import QualityGate.Text.Units
import QualityGate.Toolchain

/-!
# Scanning source text

The scanner reads a source character by character and splits every line into a code channel and a comment channel. The contents
of text and character literals reach neither. What carries over from one line to the next is the mode (`Mode`): in code, inside a
block comment of some depth, or inside a text literal.

A step looks at one character and at what follows it. A token of several characters is recognised at its first one; the others
are then skipped, so the scan of a line is a fold over its characters.
-/

namespace QualityGate

open QualityGate.Toolchain

/-- What the scanner is inside of. -/
inductive Mode where
  | code
  | lineComment
  | blockComment (depth : Nat)
  | literal (close : List Char) (escapes : Bool)
  deriving DecidableEq, Repr

/-- A scanned line: its number from 1, its text, what of it is code, the text of its comments if it has any, and the place in
`text` of the comment that runs to the end of the line. -/
structure Line where
  number : Nat
  text : List Char
  code : List Char
  comment : Option (List Char)
  commentAt : Option Nat
  deriving DecidableEq, Repr

namespace Scan

/-- The place of the scanner in a line. `code` and `comment` hold what the channels have received, latest first; `skip` is how many
characters still belong to the token recognised last; `tail` is where the latest run of comments with no code after it opened,
with the length of the code channel at that point. -/
structure Cursor where
  mode : Mode
  skip : Nat
  previous : Option Char
  position : Nat
  code : List Char
  comment : Option (List Char)
  tail : Option (Nat × Nat)
  deriving DecidableEq, Repr

/-- Whether `#` opens comments, instead of `//` and `/*`. -/
def hashComments (t : Toolchain) : Bool := t = pythonUv

/-- Whether a block comment may hold another one. -/
def nestedBlocks (t : Toolchain) : Bool := t = rust

/-- Whether a character may stand in an identifier. -/
def isIdentifierChar (c : Char) : Bool := c.isAlphanum || c = '_'

def isHexDigit (c : Char) : Bool := c.isDigit || ('a' ≤ c && c ≤ 'f') || ('A' ≤ c && c ≤ 'F')

/-- Whether a character takes a single unit, as one between single quotes must. -/
def isSingle (c : Char) : Bool := unitsOf c = 1

/-- The length of a character literal at the start of a text: one plain character, one escaped character, or a code point in
braces, between single quotes. -/
def charLiteral? (text : List Char) : Option Nat :=
  match text with
  | '\'' :: '\\' :: c :: rest =>
    if isSingle c && !isLineEnd c && rest.head? = some '\'' then some 4
    else if c = 'u' then
      match rest with
      | '\x7b' :: more =>
        let hex := more.takeWhile isHexDigit
        if !hex.isEmpty && (more.drop hex.length).take 2 = ['\x7d', '\''] then some (hex.length + 6) else none
      | _ => none
    else none
  | '\'' :: c :: '\'' :: _ => if isSingle c && c ≠ '\\' && c ≠ '\'' && c ≠ '\n' then some 3 else none
  | _ => none

/-- The opening of a raw text literal: `r` or `br`, hashes, a quote. -/
def rawLiteral? (text : List Char) : Option (List Char × Mode) :=
  let lead := if "br".toList.isPrefixOf text then ['b', 'r'] else if text.head? = some 'r' then ['r'] else []
  let afterLead := text.drop lead.length
  let hashes := afterLead.takeWhile (· = '#')
  if lead.isEmpty ∨ (afterLead.drop hashes.length).head? ≠ some '"' then none
  else some (lead ++ hashes ++ ['"'], .literal ('"' :: hashes) false)

/-- The text literal that opens at the start of a text, `previous` standing before it: its opening and the mode inside it. -/
def literal? (t : Toolchain) (previous : Option Char) (text : List Char) : Option (List Char × Mode) :=
  match t with
  | pythonUv =>
    if "\"\"\"".toList.isPrefixOf text then some (['"', '"', '"'], .literal ['"', '"', '"'] true)
    else if "'''".toList.isPrefixOf text then some (['\'', '\'', '\''], .literal ['\'', '\'', '\''] true)
    else
      match text.head? with
      | some '"' => some (['"'], .literal ['"'] true)
      | some '\'' => some (['\''], .literal ['\''] true)
      | _ => none
  | _ =>
    let raw := if t = rust ∧ !previous.any isIdentifierChar then rawLiteral? text else none
    match raw, text.head? with
    | some found, _ => some found
    | none, some '"' => some (['"'], .literal ['"'] true)
    | none, some '`' => if t = deno ∨ t = go then some (['`'], .literal ['`'] (t = deno)) else none
    | none, some '\'' => if t = deno then some (['\''], .literal ['\''] true) else none
    | none, _ => none

/-- Whether a comment opens at a character in code, `rest` standing after it. -/
def opensComment (t : Toolchain) (c : Char) (rest : List Char) : Bool :=
  if hashComments t then c = '#' else c = '/' && (rest.head? = some '/' || rest.head? = some '*')

/-- Appends text to the comment channel, which then exists. -/
def Cursor.say (k : Cursor) (text : List Char) : Cursor :=
  { k with comment := some (text.reverse ++ k.comment.getD []) }

/-- Appends text to the code channel. -/
def Cursor.emit (k : Cursor) (text : List Char) : Cursor := { k with code := text.reverse ++ k.code }

/-- Goes on inside `mode`, past `skip` further characters of the token at hand. -/
def Cursor.enter (k : Cursor) (mode : Mode) (skip : Nat) : Cursor := { k with mode, skip }

/-- Where the run of comments at hand opened, when one opens at the current character of a line in code. -/
def Cursor.mark (k : Cursor) (opens : Bool) : Cursor :=
  if opens && k.tail.all (fun (_, length) => length < k.code.length) then
    { k with tail := some (k.position, k.code.length) }
  else k

/-- What a character in code does. -/
def codeStep (t : Toolchain) (k : Cursor) (c : Char) (rest : List Char) : Cursor :=
  let k := k.mark (opensComment t c rest)
  if hashComments t && c = '#' then ({ k with comment := some [] }).enter .lineComment 0
  else if !hashComments t && c = '/' && rest.head? = some '/' then
    ({ k with comment := some ['/', '/'] }).enter .lineComment 1
  else if !hashComments t && c = '/' && rest.head? = some '*' then (k.say ['/', '*']).enter (.blockComment 1) 1
  else
    let char := if (t = rust ∨ t = go) ∧ c = '\'' then charLiteral? (c :: rest) else none
    match char with
    | some length => (k.emit ['\'', '\'']).enter .code (length - 1)
    | none =>
      match literal? t k.previous (c :: rest) with
      | some (opening, mode) => (k.emit opening).enter mode (opening.length - 1)
      | none => k.emit [c]

/-- What a character does in each mode. -/
def modeStep (t : Toolchain) (k : Cursor) (c : Char) (rest : List Char) : Cursor :=
  match k.mode with
  | .lineComment => k.say [c]
  | .blockComment depth =>
    if nestedBlocks t && c = '/' && rest.head? = some '*' then (k.say ['/', '*']).enter (.blockComment (depth + 1)) 1
    else if c = '*' && rest.head? = some '/' then
      k.enter (if depth ≤ 1 then .code else .blockComment (depth - 1)) 1
    else k.say [c]
  | .literal close escapes =>
    if escapes && c = '\\' then k.enter k.mode 1
    else if close.isPrefixOf (c :: rest) then (k.emit close).enter .code (close.length - 1)
    else k
  | .code => codeStep t k c rest

/-- One character of a line. -/
def step (t : Toolchain) (k : Cursor) (c : Char) (rest : List Char) : Cursor :=
  let next := if 0 < k.skip then { k with skip := k.skip - 1 } else modeStep t k c rest
  { next with previous := some c, position := k.position + 1 }

/-- The characters of a line from some place on. -/
def steps (t : Toolchain) : Cursor → List Char → Cursor
  | k, [] => k
  | k, c :: rest => steps t (step t k c rest) rest

/-- The scanner at the start of a line. -/
def start (mode : Mode) : Cursor :=
  let inComment := match mode with
    | .blockComment _ => true
    | _ => false
  { mode, skip := 0, previous := none, position := 0, code := [],
    comment := if inComment then some [] else none,
    tail := if inComment then some (0, 0) else none }

/-- The mode after the end of a line: a line comment ends there. -/
def nextMode : Mode → Mode
  | .lineComment => .code
  | mode => mode

/-- The scanned line that a finished cursor stands for. -/
def Cursor.toLine (k : Cursor) (number : Nat) (text : List Char) : Line where
  number := number
  text := text
  code := k.code.reverse
  comment := k.comment.map List.reverse
  commentAt := (k.tail.filter fun (_, length) => k.code.length = length).map (·.1)

/-- The scanned lines of a source from a line on, and the mode at its end. -/
def linesFrom (t : Toolchain) : Mode → Nat → List (List Char) → List Line
  | _, _, [] => []
  | mode, number, text :: rest =>
    let k := steps t (start mode) text
    k.toLine number text :: linesFrom t (nextMode k.mode) (number + 1) rest

end Scan

/-- The scanned lines of a source text. -/
def scan (t : Toolchain) (content : List Char) : List Line := Scan.linesFrom t .code 1 (splitLines content)

namespace Line

/-- Whether the line has code on it. -/
def hasCode (line : Line) : Bool := line.code.any fun c => !isBlank c

/-- How many blanks the line starts with. -/
def indentation (line : Line) : Nat := (leadingBlanks line.text).length

/-- The column of the trailing comment, in units. -/
def commentColumn (line : Line) : Option Nat := line.commentAt.map fun at_ => units (line.text.take at_)

instance : Encode Line where
  encode line :=
    .obj [("number", encode line.number), ("text", .str (String.ofList line.text)), ("code", .str (String.ofList line.code)),
      ("comment", encode (line.comment.map String.ofList)), ("commentColumn", encode line.commentColumn)]

end Line

/-- How many lines hold code. -/
def countCode (lines : List Line) : Nat := lines.countP Line.hasCode

end QualityGate
