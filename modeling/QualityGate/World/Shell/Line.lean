import QualityGate.Text.Blank

/-!
# Command lines of a shell

A line is read into words, operators and redirections, and these into commands: a step runs depending on how the one before it
ended, and the commands of a step hand their output on from one to the next.
-/

namespace QualityGate.Shell

/-- A part of a word: text as it stands, or the value of a variable. -/
inductive Piece where
  | text (chars : List Char)
  | value (name : List Char) (quoted : Bool)
  deriving DecidableEq, Repr, Inhabited

abbrev Word := List Piece

inductive Token where
  | word (w : Word)
  | sign (c : Char)
  /-- A sign that redirects the stream of a number. -/
  | arrow (stream : Nat) (c : Char)
  deriving DecidableEq, Repr, Inhabited

/-- What stands open at a character of a line. -/
inductive Mode where
  | bare
  | escape (quoted : Bool)
  | single
  | double
  | name (chars : List Char) (braced quoted : Bool)
  deriving DecidableEq, Repr, Inhabited

/-- A reader of a line: the tokens so far, the pending word if there is any, and what stands open. -/
structure Reader where
  tokens : List Token := []
  pending : Option Word := none
  mode : Mode := .bare
  deriving DecidableEq, Repr, Inhabited

namespace Reader

/-- One more character of the pending word, which starts here if there was none. -/
def keep (r : Reader) (c : Char) : Reader :=
  let w := r.pending.getD []
  match w.getLast? with
  | some (.text cs) => { r with pending := some (w.dropLast ++ [.text (cs ++ [c])]) }
  | _ => { r with pending := some (w ++ [.text [c]]) }

def begin (r : Reader) : Reader := { r with pending := some (r.pending.getD []) }

/-- The pending word is complete. -/
def close (r : Reader) : Reader := { r with tokens := r.tokens ++ (r.pending.map Token.word).toList, pending := none }

/-- An arrow takes the number that stands right before it. -/
def arrow (r : Reader) (c : Char) : Reader :=
  let usual := if c = '<' then 0 else 1
  match r.pending with
  | some [.text [d]] =>
    if d.isDigit then { r with tokens := r.tokens ++ [.arrow (d.toNat - '0'.toNat) c], pending := none }
    else { r.close with tokens := r.close.tokens ++ [.arrow usual c] }
  | _ => { r.close with tokens := r.close.tokens ++ [.arrow usual c] }

def isName (c : Char) : Bool := c.isAlphanum || c = '_'

/-- A variable's name is complete. -/
def endName (r : Reader) (chars : List Char) (quoted : Bool) : Reader :=
  let r := { r with mode := if quoted then .double else .bare }
  if chars.isEmpty then r.keep '$' else { r with pending := some (r.pending.getD [] ++ [.value chars quoted]) }

/-- A character outside of every quote and name. -/
def plain (r : Reader) (c : Char) : Reader :=
  if c = '\\' then { r with mode := .escape false }
  else if c = '\'' then { r.begin with mode := .single }
  else if c = '"' then { r.begin with mode := .double }
  else if c = '$' then { r with mode := .name [] false false }
  else if c = '\n' then { r.close with tokens := r.close.tokens ++ [.sign ';'] }
  else if isBlank c then r.close
  else if c = '>' ∨ c = '<' then r.arrow c
  else if c = ';' ∨ c = '&' ∨ c = '|' then { r.close with tokens := r.close.tokens ++ [.sign c] }
  else r.keep c

/-- A character between double quotes. -/
def inQuotes (r : Reader) (c : Char) : Reader :=
  if c = '"' then { r with mode := .bare }
  else if c = '\\' then { r with mode := .escape true }
  else if c = '$' then { r with mode := .name [] false true }
  else r.keep c

def step (r : Reader) (c : Char) : Reader :=
  match r.mode with
  | .bare => r.plain c
  | .single => if c = '\'' then { r with mode := .bare } else r.keep c
  | .double => r.inQuotes c
  | .escape quoted =>
    let r := { r with mode := if quoted then .double else .bare }
    if quoted ∧ ¬ ['"', '\\', '$', '\x60'].contains c then (r.keep '\\').keep c else r.keep c
  | .name chars true quoted =>
    if c = '}' then r.endName chars quoted else { r with mode := .name (chars ++ [c]) true quoted }
  | .name chars false quoted =>
    if chars.isEmpty ∧ c = '{' then { r with mode := .name [] true quoted }
    else if chars.isEmpty ∧ c = '?' then r.endName [c] quoted
    else if isName c then { r with mode := .name (chars ++ [c]) false quoted }
    else
      let r := r.endName chars quoted
      if quoted then r.inQuotes c else r.plain c

end Reader

/-- The tokens of a line; none when a quote is left open. -/
def tokens? (line : List Char) : Option (List Token) :=
  let r := line.foldl Reader.step {}
  match r.mode with
  | .bare => some r.close.tokens
  | .name chars false false => some (r.endName chars false).close.tokens
  | _ => none

/-- Where a redirection leads. -/
inductive Target where
  | stream (number : Nat)
  | file (path : Word) (append : Bool)
  | source (path : Word)
  deriving DecidableEq, Repr, Inhabited

structure Command where
  words : List Word := []
  redirects : List (Nat × Target) := []
  deriving DecidableEq, Repr, Inhabited

/-- When a step is run, told from how the one before it ended. -/
inductive Condition where
  | always
  | success
  | failure
  deriving DecidableEq, Repr, Inhabited

/-- A step: commands of which each reads what the one before it writes. -/
structure Step where
  condition : Condition := .always
  commands : List Command := []
  deriving DecidableEq, Repr, Inhabited

/-- The number that a word spells, when it is a single digit. -/
def digit? : Word → Option Nat
  | [.text [d]] => if d.isDigit then some (d.toNat - '0'.toNat) else none
  | _ => none

/-- The commands of a line, in steps, with the command and the step that are being read. -/
def stepsFrom (step : Step) (c : Command) : List Token → List Step
  | [] => [{ step with commands := step.commands ++ [c] }]
  | .arrow n '>' :: .sign '&' :: .word w :: rest =>
    stepsFrom step { c with redirects := c.redirects ++ [(n, .stream ((digit? w).getD 1))] } rest
  | .arrow n '>' :: .arrow _ '>' :: .word w :: rest =>
    stepsFrom step { c with redirects := c.redirects ++ [(n, .file w true)] } rest
  | .arrow n '<' :: .word w :: rest => stepsFrom step { c with redirects := c.redirects ++ [(n, .source w)] } rest
  | .arrow n _ :: .word w :: rest => stepsFrom step { c with redirects := c.redirects ++ [(n, .file w false)] } rest
  | .arrow _ _ :: rest => stepsFrom step c rest
  | .sign '&' :: .sign '&' :: rest => { step with commands := step.commands ++ [c] } :: stepsFrom ⟨.success, []⟩ {} rest
  | .sign '|' :: .sign '|' :: rest => { step with commands := step.commands ++ [c] } :: stepsFrom ⟨.failure, []⟩ {} rest
  | .sign '|' :: rest => stepsFrom { step with commands := step.commands ++ [c] } {} rest
  | .sign _ :: rest => { step with commands := step.commands ++ [c] } :: stepsFrom {} {} rest
  | .word w :: rest => stepsFrom step { c with words := c.words ++ [w] } rest

/-- The steps of a line; none when it cannot be read. -/
def steps? (line : String) : Option (List Step) := (tokens? line.toList).map (stepsFrom {} {})

end QualityGate.Shell
