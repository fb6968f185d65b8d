import QualityGate.Text.Blank

/-!
# Text patterns

A pattern describes how a text may go on at a spot. Matching tries the ways in a fixed order of preference (the first branch of
a choice, the longest or the shortest repetition) and takes the first that lets the rest of the pattern succeed. Each repetition
after the required ones consumes something, so matching ends.
-/

namespace QualityGate

/-- What may stand in a text from some spot on. -/
inductive Pattern where
  | empty
  | one (test : Char → Bool)
  | wordEdge
  | textStart
  | textEnd
  | lineStart
  | lineEnd
  | seq (first second : Pattern)
  | alt (first second : Pattern)
  | times (shortest : Bool) (least : Nat) (most : Option Nat) (body : Pattern)
  | group (index : Nat) (body : Pattern)

/-- A place in a text: what stands before it, nearest first, and what follows. -/
structure Spot where
  before : List Char
  after : List Char
  deriving DecidableEq, Repr

/-- The text of each group matched so far, latest first. -/
abbrev Groups := List (Nat × List Char)

/-- The letters, digits and the underscore of ASCII. -/
def isWordChar (c : Char) : Bool := c.isAlphanum || c = '_'

namespace Spot

/-- A word begins or ends here. -/
def atWordEdge (s : Spot) : Bool := s.before.head?.any isWordChar != s.after.head?.any isWordChar

def atLineStart (s : Spot) : Bool := s.before.head?.all isLineEnd

def atLineEnd (s : Spot) : Bool := s.after.head?.all isLineEnd

/-- The text between an earlier spot and a later one of the same text. -/
def textUpTo (earlier later : Spot) : List Char :=
  (later.before.take (later.before.length - earlier.before.length)).reverse

end Spot

namespace Pattern

variable {α : Type}

/-- Goes on with what follows a match. -/
abbrev Next (α : Type) := Spot → Groups → Option α

/-- A way to go on from a spot. -/
abbrev Step (α : Type) := Spot → Groups → Next α → Option α

/-- A step taken a fixed number of times. -/
def exactly (step : Step α) : Nat → Step α
  | 0, s, g, next => next s g
  | n + 1, s, g, next => step s g fun s' g' => exactly step n s' g' next

/-- A step taken as often as possible, at most `fuel` times, each time over some text. -/
def greedy (step : Step α) : Nat → Step α
  | 0, s, g, next => next s g
  | fuel + 1, s, g, next =>
    (step s g fun s' g' =>
      if s'.after.length < s.after.length then greedy step fuel s' g' next else none) <|> next s g

/-- A step taken as seldom as possible, at most `fuel` times, each time over some text. -/
def sparing (step : Step α) : Nat → Step α
  | 0, s, g, next => next s g
  | fuel + 1, s, g, next =>
    next s g <|> step s g fun s' g' =>
      if s'.after.length < s.after.length then sparing step fuel s' g' next else none

/-- Matches a pattern at a spot and goes on with `next`, over the ways in order of preference. -/
def run : Pattern → Step α
  | empty, s, g, next => next s g
  | one test, s, g, next =>
    match s.after with
    | c :: rest => if test c then next ⟨c :: s.before, rest⟩ g else none
    | [] => none
  | wordEdge, s, g, next => if s.atWordEdge then next s g else none
  | textStart, s, g, next => if s.before.isEmpty then next s g else none
  | textEnd, s, g, next => if s.after.isEmpty then next s g else none
  | lineStart, s, g, next => if s.atLineStart then next s g else none
  | lineEnd, s, g, next => if s.atLineEnd then next s g else none
  | seq p q, s, g, next => run p s g fun s' g' => run q s' g' next
  | alt p q, s, g, next => run p s g next <|> run q s g next
  | times shortest least most body, s, g, next =>
    exactly (run body) least s g fun s' g' =>
      let fuel := match most with
        | some m => min (m - least) s'.after.length
        | none => s'.after.length
      if shortest then sparing (run body) fuel s' g' next else greedy (run body) fuel s' g' next
  | group index body, s, g, next => run body s g fun s' g' => next s' ((index, s.textUpTo s') :: g')

/-! ## Building patterns -/

/-- The concatenation of patterns. -/
def all : List Pattern → Pattern
  | [] => empty
  | [p] => p
  | p :: ps => seq p (all ps)

/-- The first of the patterns that fits. -/
def any : List Pattern → Pattern
  | [] => one fun _ => false
  | [p] => p
  | p :: ps => alt p (any ps)

/-- A fixed text. -/
def lit (text : String) : Pattern := all (text.toList.map fun c => one (· = c))

/-- Any of some fixed texts, earlier ones preferred. -/
def words (texts : List String) : Pattern := any (texts.map lit)

def many (p : Pattern) : Pattern := times false 0 none p

def many1 (p : Pattern) : Pattern := times false 1 none p

def opt (p : Pattern) : Pattern := times false 0 (some 1) p

/-- One white space character. -/
def blank : Pattern := one isBlank

def blanks : Pattern := many blank

def blanks1 : Pattern := many1 blank

/-- One letter, digit or underscore. -/
def wordChar : Pattern := one isWordChar

def digit : Pattern := one Char.isDigit

/-- Any character that does not end a line. -/
def inLine : Pattern := one fun c => !isLineEnd c

/-- Any character but the given one. -/
def butNot (c : Char) : Pattern := one (· ≠ c)

/-! ## Using patterns -/

/-- A place where a pattern matched. -/
structure Found where
  start : Spot
  stop : Spot
  groups : Groups

namespace Found

/-- The matched text. -/
def text (m : Found) : List Char := m.start.textUpTo m.stop

/-- The text before the match. -/
def prior (m : Found) : List Char := m.start.before.reverse

/-- What a group matched last, if it took part. -/
def group (m : Found) (index : Nat) : Option (List Char) := m.groups.lookup index

end Found

/-- The preferred match that starts at a spot. -/
def foundAt (p : Pattern) (s : Spot) : Option Found :=
  run p s [] fun s' g => some ⟨s, s', g⟩

/-- The first match at or after a spot. -/
def foundFrom (p : Pattern) (before : List Char) : List Char → Option Found
  | [] => foundAt p ⟨before, []⟩
  | c :: rest => foundAt p ⟨before, c :: rest⟩ <|> foundFrom p (c :: before) rest

/-- The first match in a text. -/
def find (p : Pattern) (text : List Char) : Option Found := foundFrom p [] text

/-- Whether the pattern matches somewhere in a text. -/
def occurs (p : Pattern) (text : List Char) : Bool := (find p text).isSome

/-- The matches in a text from left to right, none inside another; after an empty match the search moves on by one character. -/
def findAllFrom (p : Pattern) : Nat → Spot → List Found
  | 0, _ => []
  | fuel + 1, s =>
    match foundFrom p s.before s.after with
    | none => []
    | some m =>
      if m.stop.before.length = m.start.before.length then
        match m.stop.after with
        | [] => [m]
        | c :: rest => m :: findAllFrom p fuel ⟨c :: m.stop.before, rest⟩
      else m :: findAllFrom p fuel m.stop

/-- All matches in a text from left to right. -/
def findAll (p : Pattern) (text : List Char) : List Found := findAllFrom p (text.length + 1) ⟨[], text⟩

/-- The text with each match replaced. -/
def replaceAll (p : Pattern) (replacement : Found → List Char) (text : List Char) : List Char :=
  let found := findAll p text
  let step (state : List Char × Nat) (m : Found) : List Char × Nat :=
    let from_ := m.start.before.length
    (state.1 ++ ((text.drop state.2).take (from_ - state.2)) ++ replacement m, m.stop.before.length)
  let (done, position) := found.foldl step ([], 0)
  done ++ text.drop position

end Pattern

end QualityGate
