import QualityGate.Source.Scan
import QualityGate.Source.Words

/-!
# Functions and their complexity

A line of code that declares a function starts a span. With braces, the span ends at the brace that closes the body; with
indentation, at the last line that is indented deeper than the declaration. The cyclomatic value of a function counts the decisions
on its own lines, those of functions declared inside it left out; the cognitive value weighs each structure by its nesting. Both
stop at `ceiling`.
-/

namespace QualityGate

open QualityGate.Toolchain

/-- A function of a source: where it stands and how complex it is. Lines count from 1. -/
structure FunctionInfo where
  name : String
  line : Nat
  endLine : Nat
  cyclomatic : Nat
  cognitive : Nat
  deriving DecidableEq, Repr, Inhabited

instance : Encode FunctionInfo where
  encode f :=
    .obj [("name", encode f.name), ("line", encode f.line), ("endLine", encode f.endLine), ("cyclomatic", encode f.cyclomatic),
      ("cognitive", encode f.cognitive)]

instance : Decode FunctionInfo where
  decode? j := do
    return { name := j.fieldD "name" "", line := j.fieldD "line" 0, endLine := j.fieldD "endLine" 0,
             cyclomatic := j.fieldD "cyclomatic" 0, cognitive := j.fieldD "cognitive" 0 }

namespace Functions

/-- The largest complexity that is reported. -/
def ceiling : Nat := 255

/-- The name that a pattern gives to the function it finds. -/
def nameGroup : Pattern → Pattern := .group 1

/-- An identifier: a letter or underscore, then letters, digits and underscores. -/
def identifier : Pattern := .seq (.one fun c => c.isAlpha || c = '_') (.many .wordChar)

/-- An identifier that may hold dollar signs. -/
def dollarIdentifier : Pattern := .seq (.one fun c => c.isAlpha || c = '_' || c = '$') (.many (.one isNameChar))

/-- A list in parentheses with no closing parenthesis inside. -/
def parenthesised : Pattern := .all [.lit "(", .many (.butNot ')'), .lit ")"]

/-- A type after a colon, up to the next equals sign. -/
def annotation : Pattern := .opt (.seq (.lit ":") (.many1 (.butNot '=')))

/-- A named `function`, with or without a star, before its type or value parameters. -/
def namedFunction : Pattern :=
  .all [.wordEdge, .lit "function", .blanks, .opt (.lit "*"), .blanks, nameGroup dollarIdentifier, .blanks,
    .one fun c => c = '<' || c = '(']

/-- An arrow function bound to a name. -/
def arrowFunction : Pattern :=
  .all [.wordEdge, .words ["const", "let", "var"], .blanks1, nameGroup dollarIdentifier, .blanks, annotation, .lit "=", .blanks,
    .opt (.seq (.lit "async") .blanks), .alt parenthesised dollarIdentifier, .blanks, annotation, .lit "=>"]

/-- A method: a name and parameters, perhaps a result type, and an opening brace at the end of the line. -/
def method : Pattern :=
  .all [.textStart, .blanks,
    .many (.seq (.words ["public", "private", "protected", "static", "async", "override", "readonly"]) .blanks1),
    nameGroup dollarIdentifier, .blanks, parenthesised, .blanks,
    .opt (.all [.lit ":", .blanks, .many1 (.one fun c => c ≠ '\x7b' && c ≠ ';')]), .lit "\x7b", .blanks, .textEnd]

/-- The patterns that declare a function, most telling first. -/
def patterns : Toolchain → List Pattern
  | rust => [.all [.wordEdge, .lit "fn", .blanks1, nameGroup identifier]]
  | go => [.all [.textStart, .blanks, .lit "func", .blanks1, .opt (.seq parenthesised .blanks), nameGroup identifier]]
  | deno => [namedFunction, arrowFunction, method]
  | pythonUv =>
    [.all [.textStart, .blanks, .opt (.seq (.lit "async") .blanks1), .lit "def", .blanks1, nameGroup identifier]]

/-- Words that look like a function's name and are none. -/
def notNames : List String := ["if", "for", "while", "switch", "catch", "return", "function", "else", "do", "with"]

/-- The name of the function that a line of code declares. -/
def declaredName? (t : Toolchain) (code : List Char) : Option (List Char) :=
  (patterns t).findSome? fun p =>
    ((p.find code).bind (·.group 1)).filter fun name => !name.isEmpty && !notNames.contains (String.ofList name)

/-- A function's name and its first and last line, counted from 0. -/
structure Span where
  name : List Char
  start : Nat
  stop : Nat
  deriving DecidableEq, Repr

/-! ## Spans by braces -/

/-- What has been seen since a function's name: open braces, open groupings before the body, and whether the body has opened. -/
structure BraceState where
  depth : Int
  grouping : Int
  opened : Bool
  deriving DecidableEq, Repr

/-- What a character does to the search for the end of a body: it goes on, the body has closed, or there is no body. -/
inductive BraceStep where
  | goOn (state : BraceState)
  | closed
  | bodiless
  deriving DecidableEq, Repr

/-- One character of code in the search for the end of a body. A semicolon outside all groupings before the body says that there
is none. -/
def braceStep (s : BraceState) (c : Char) : BraceStep :=
  let grouping :=
    if s.opened then s.grouping
    else if c = '(' || c = '[' then s.grouping + 1
    else if c = ')' || c = ']' then s.grouping - 1
    else s.grouping
  if c = ';' && !s.opened && grouping ≤ 0 then .bodiless
  else if c = '\x7b' then .goOn ⟨s.depth + 1, grouping, true⟩
  else if c = '\x7d' then
    if s.opened && s.depth - 1 = 0 then .closed else .goOn ⟨s.depth - 1, grouping, s.opened⟩
  else .goOn ⟨s.depth, grouping, s.opened⟩

/-- The search over the code of a line. -/
def braceSteps : BraceState → List Char → BraceStep
  | s, [] => .goOn s
  | s, c :: rest =>
    match braceStep s c with
    | .goOn s' => braceSteps s' rest
    | other => other

/-- How many lines further down the body closes, from the lines of code at hand on. -/
def closingLine? : BraceState → List (List Char) → Option Nat
  | _, [] => none
  | s, code :: rest =>
    match braceSteps s code with
    | .goOn s' => (closingLine? s' rest).map (· + 1)
    | .closed => some 0
    | .bodiless => none

/-- The code from the first place where a name stands. -/
def fromName (name code : List Char) : List Char := code.drop ((indexOf? name code).getD 0)

/-- The span of the function that the first of some lines of code declares. -/
def braceSpan? (t : Toolchain) (index : Nat) (code : List Char) (rest : List (List Char)) : Option Span := do
  let name ← declaredName? t code
  let length ← closingLine? ⟨0, 0, false⟩ (fromName name code :: rest)
  return ⟨name, index, index + length⟩

/-- The spans of the functions declared on some lines of code, which start at a line. -/
def braceSpansFrom (t : Toolchain) (index : Nat) : List (List Char) → List Span
  | [] => []
  | code :: rest => (braceSpan? t index code rest).toList ++ braceSpansFrom t (index + 1) rest

/-! ## Spans by indentation -/

/-- How many lines further down the body ends: at the last line with code before one that is not indented deeper. -/
def indentLength (base : Nat) (last seen : Nat) : List Line → Nat
  | [] => last
  | line :: rest =>
    if !line.hasCode then indentLength base last (seen + 1) rest
    else if line.indentation ≤ base then last
    else indentLength base seen (seen + 1) rest

/-- The spans of the functions declared on some lines, which start at a line. -/
def indentSpansFrom (t : Toolchain) (index : Nat) : List Line → List Span
  | [] => []
  | line :: rest =>
    let here := (declaredName? t line.code).map fun name =>
      Span.mk name index (index + indentLength line.indentation 0 1 rest)
    here.toList ++ indentSpansFrom t (index + 1) rest

/-- The spans of all functions, in the order of their first lines. -/
def spans (t : Toolchain) (lines : List Line) : List Span :=
  if t = pythonUv then indentSpansFrom t 0 lines else braceSpansFrom t 0 (lines.map (·.code))

/-! ## Decisions -/

/-- Whether a span holds a line. -/
def Span.holds (s : Span) (index : Nat) : Bool := s.start ≤ index && index ≤ s.stop

/-- Whether a span lies inside another: it starts later and ends no later. -/
def Span.inside (inner outer : Span) : Bool := outer.start < inner.start && inner.stop ≤ outer.stop

/-- The lines of a span that belong to no span inside it. -/
def ownLines (span : Span) (all : List Span) : List Nat :=
  let inner := all.filter (·.inside span)
  (List.range' span.start (span.stop + 1 - span.start)).filter fun index => !inner.any (·.holds index)

/-- The operators that join conditions. -/
def logicalSigns : Toolchain → List (Char × Char)
  | rust | go => [('&', '&'), ('|', '|')]
  | deno => [('&', '&'), ('|', '|'), ('?', '?')]
  | pythonUv => []

/-- The keywords that each make a decision. -/
def decisionWords : Toolchain → List String
  | rust => ["if", "for", "while", "loop"]
  | go => ["if", "for", "case"]
  | deno => ["if", "for", "while", "case", "catch"]
  | pythonUv => ["if", "elif", "for", "while", "except", "and", "or"]

/-- The arms of a match that are not found as keywords. -/
def armCount (t : Toolchain) (code : List Char) : Nat :=
  match t with
  | rust => countSigns [('=', '>')] code
  | pythonUv => if startsWithWord "case" code then 1 else 0
  | _ => 0

/-- The number of decisions in a piece of code. -/
def decisions (t : Toolchain) (code : List Char) : Nat :=
  countWords (decisionWords t) code + armCount t code + countSigns (logicalSigns t) code

/-! ## Nesting -/

/-- The keywords that open a structure. -/
def structureWords : Toolchain → List String
  | rust => ["if", "for", "while", "loop", "match"]
  | go => ["if", "for", "switch", "select"]
  | deno => ["if", "for", "while", "switch", "catch"]
  | pythonUv => ["if", "for", "while", "try", "except", "with", "match"]

/-- The keywords of an alternative branch. -/
def elseWords : Toolchain → List String
  | pythonUv => ["elif", "else"]
  | _ => ["else"]

/-- The keywords that leave a structure early. -/
def exitWords : List String := ["return", "break", "continue"]

/-- The count of open braces after a piece of code. -/
def braceDepth (depth : Int) (code : List Char) : Int :=
  code.foldl (fun d c => if c = '\x7b' then d + 1 else if c = '\x7d' then d - 1 else d) depth

/-- For each line of code, the count of braces open before it. -/
def depthsBefore (depth : Int) : List (List Char) → List Int
  | [] => []
  | code :: rest => depth :: depthsBefore (braceDepth depth code) rest

/-- For each line, how many open structures it is indented under; `open_` holds the indentations of those, innermost first. -/
def indentNesting (open_ : List Nat) : List Line → List Int
  | [] => []
  | line :: rest =>
    if !line.hasCode then 0 :: indentNesting open_ rest
    else
      let outer := open_.dropWhile (line.indentation ≤ ·)
      let opens := hasWord (structureWords pythonUv) line.code && (trimEnd line.code).getLast? = some ':'
      (outer.length : Int) :: indentNesting (if opens then line.indentation :: outer else outer) rest

/-- For each line of a span, how deeply it is nested in the function. The line of the declaration itself is not scored. -/
def nesting (t : Toolchain) (lines : List Line) : List Int :=
  match t, lines with
  | pythonUv, _ :: body => 0 :: indentNesting [] body
  | _, _ => (depthsBefore 0 (lines.map (·.code))).map fun d => max 0 (d - 1)

/-- What a line of a body adds to the cognitive value. -/
def lineScore (t : Toolchain) (code : List Char) (nesting : Int) : Int :=
  let elseIf : Int := if t = pythonUv then 0 else countPair "else" "if" code
  let structures : Int := (countWords (structureWords t) code : Int) - elseIf
  let exit : Int := if 0 < nesting ∧ hasWord exitWords code then 1 else 0
  countWords (elseWords t) code + max 0 structures * (1 + nesting) + exit

/-- The lines of a span. -/
def Span.lines (s : Span) (lines : List Line) : List Line := (lines.drop s.start).take (s.stop + 1 - s.start)

/-- The cyclomatic value of a function before the ceiling. The line of the declaration counts from the function's name on. -/
def cyclomatic (t : Toolchain) (lines : List Line) (span : Span) (own : List Nat) : Nat :=
  1 + total (own.map fun index =>
    let code := (lines[index]?.map (·.code)).getD []
    decisions t (if index = span.start then fromName span.name code else code))

/-- The cognitive value of a function before the ceiling. -/
def cognitive (t : Toolchain) (lines : List Line) (span : Span) (own : List Nat) : Int :=
  let levels := nesting t (span.lines lines)
  let scores := own.map fun index =>
    let line? := lines[index]?
    let code := (line?.map (·.code)).getD []
    if index = span.start ∨ !(line?.any (·.hasCode)) then 0
    else lineScore t code ((levels[index - span.start]?).getD 0)
  scores.foldr Int.add 0

/-- A value held between zero and the ceiling. -/
def saturate (value : Int) : Nat := min ceiling value.toNat

end Functions

open Functions in
/-- The functions of scanned lines, in the order of their declarations. -/
def analyzeFunctions (t : Toolchain) (lines : List Line) : List FunctionInfo :=
  let all := spans t lines
  all.map fun span =>
    let own := ownLines span all
    { name := String.ofList span.name, line := span.start + 1, endLine := span.stop + 1,
      cyclomatic := saturate (cyclomatic t lines span own), cognitive := saturate (cognitive t lines span own) }

end QualityGate
