import QualityGate.Failure

/-!
# Words of a command

A command is split into words at white space. A quote of either kind makes what follows, up to the same quote, part of a word as it
stands, and an empty pair of quotes is a word too.
-/

namespace QualityGate.Words

/-- Where a reader of a command stands: the words so far, the pending one if there is any, and the open quote. -/
structure Reader where
  words : List (List Char)
  pending : Option (List Char)
  quote : Option Char
  deriving DecidableEq, Repr

def start : Reader := ⟨[], none, none⟩

/-- One more character of the pending word, which starts here if there was none. -/
def Reader.keep (r : Reader) (c : Char) : Reader := { r with pending := some (r.pending.getD [] ++ [c]) }

/-- The pending word is complete. -/
def Reader.close (r : Reader) : Reader := { r with words := r.words ++ r.pending.toList, pending := none }

def Reader.step (r : Reader) (c : Char) : Reader :=
  match r.quote with
  | some q => if c = q then { r with quote := none } else r.keep c
  | none =>
    if c = '"' ∨ c = '\'' then { r with quote := some c, pending := some (r.pending.getD []) }
    else if isBlank c then r.close
    else r.keep c

/-- The words of a command; none when a quote is left open. -/
def ofChars? (command : List Char) : Option (List (List Char)) :=
  let r := command.foldl Reader.step start
  if r.quote.isSome then none else some r.close.words

/-- The words of a command. -/
def split (command : String) : Except Failure (List String) :=
  match ofChars? command.toList with
  | some words => .ok (words.map String.ofList)
  | none => .error (.configuration s!"Unterminated quote in command: {command}")

end QualityGate.Words
