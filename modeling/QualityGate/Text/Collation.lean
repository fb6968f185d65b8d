import QualityGate.Text.Case
import QualityGate.Text.Collation.Table
import QualityGate.Text.Decomposition
import QualityGate.Text.Units

/-!
# Reading order of names

Names that a reader looks up are compared as in a dictionary: first by base letters over the whole text, then by accents, then by
form, where the small letter stands before the capital and plain letters before styled ones. Signs come before digits and digits
before letters. Texts are compared in decomposed form, so that two spellings of one letter are equal.
-/

namespace QualityGate.Collation

/-- The weight of a letter at the three levels. A zero does not count at its level. -/
structure Weight where
  base : Nat
  accent : Nat
  form : Nat

/-- The weights of accent and form of a plain letter. -/
def plainAccent : Nat := 0x20

def plainForm : Nat := 2

def capitalForm : Nat := 8

/-- The places of letters and signs in the order. -/
@[irreducible] def places : Array (Stretch Nat) :=
  let step (state : List (Stretch Nat) × Nat × Nat) (word : List Char) :=
    let (found, next, start) := state
    match word with
    | '=' :: word =>
      let (word, offset) :=
        match CodeTable.cut ':' word with
        | (digit, some word) => (word, CodeTable.hex digit)
        | (word, none) => (word, 0)
      let (code, count) := CodeTable.repeated word
      (⟨CodeTable.hex code, count, start + offset⟩ :: found, next, start)
    | _ =>
      let (code, count) := CodeTable.repeated word
      (⟨CodeTable.hex code, count, next⟩ :: found, next + count, next)
  Stretch.sorted ((CodeTable.words Table.order).foldl step ([], 2, 2)).1

/-- Whether a code is one of the Han characters of the first block. -/
def isCommonHan (code : Nat) : Bool :=
  (0x4E00 ≤ code && code ≤ 0x9FFF) ||
    [0xFA0E, 0xFA0F, 0xFA11, 0xFA13, 0xFA14, 0xFA1F, 0xFA21, 0xFA23, 0xFA24, 0xFA27, 0xFA28, 0xFA29].contains code

/-- Whether a code is one of the Han characters of the later blocks. -/
def isRareHan (code : Nat) : Bool :=
  (0x3400 ≤ code && code ≤ 0x4DBF) || (0x20000 ≤ code && code ≤ 0x2A6DF) || (0x2A700 ≤ code && code ≤ 0x2EE5D) ||
    (0x30000 ≤ code && code ≤ 0x323AF)

/-- The base weight of a character without a place in the order: after all that have one, script by script, by its code. -/
def unplaced (code : Nat) : Nat :=
  let script :=
    if code = 0xFFFF then 8
    else if code = 0xFFFD then 7
    else if isCommonHan code then 4
    else if isRareHan code then 5
    else if (0x17000 ≤ code && code ≤ 0x18AFF) || (0x18D00 ≤ code && code ≤ 0x18D8F) then 1
    else if 0x1B170 ≤ code && code ≤ 0x1B2FF then 2
    else if 0x18B00 ≤ code && code ≤ 0x18CFF then 3
    else 6
  script * 0x200000 + code

/-- The place of a character in the order. -/
def place? (code : Nat) : Option Nat :=
  if code = 0xFFFE then some 1 else (Stretch.find? places code).map fun s => s.entry + (code - s.first)

/-- The base weight of a character. -/
def base (code : Nat) : Nat := (place? code).getD (unplaced code)

/-- Reads a weight: the code whose place it takes, if any, and the weights of accent and form. -/
def readWeight (word : List Char) : Option Nat × Nat × Nat :=
  let number (digits : List Char) (usual : Nat) := if digits.isEmpty then usual else CodeTable.hex digits
  match splitWhere (· = '.') word with
  | code :: rest =>
    (if code.isEmpty then none else some (CodeTable.hex code), number (rest[0]?.getD []) plainAccent,
      number (rest[1]?.getD []) plainForm)
  | [] => (none, plainAccent, plainForm)

/-- Reads weights that plus signs join. -/
def readWeights (word : List Char) : List (Option Nat × Nat × Nat) :=
  if word = ['-'] then [] else (splitWhere (· = '+') word).map readWeight

/-- The weight that was read, with the place of a character as its base. -/
def Weight.ofReading (offset : Nat) (reading : Option Nat × Nat × Nat) : Weight :=
  ⟨(reading.1.map fun code => Collation.base (code + offset)).getD 0, reading.2.1, reading.2.2⟩

/-- The characters with weights of their own. -/
@[irreducible] def weighed : Array (Stretch (List (Option Nat × Nat × Nat))) :=
  Stretch.sorted (CodeTable.consecutive readWeights Table.weighed)

/-- The characters that do not count. -/
@[irreducible] def ignored : Array (Stretch Unit) := CodeTable.set Table.ignored

/-- The weights that the tables give a character. -/
def listed? (code : Nat) : Option (List Weight) :=
  match Stretch.find? weighed code with
  | some s => some (s.entry.map (Weight.ofReading (code - s.first)))
  | none =>
    match place? code with
    | some place => some [⟨place, plainAccent, plainForm⟩]
    | none => if CodeTable.holds ignored code then some [] else none

/-- The weights of a character that is not made of others: a capital weighs like its small letter but for the form. -/
def plainWeights (code : Nat) : List Weight :=
  match listed? code with
  | some weights => weights
  | none =>
    let small := match lowerChars (Char.ofNat code) with | [c] => if c.toNat = code then none else listed? c.toNat | _ => none
    match small with
    | some [⟨base, accent, 2⟩] => [⟨base, accent, capitalForm⟩]
    | _ => [⟨unplaced code, plainAccent, plainForm⟩]

/-- The form of a character that is like another one, given the form of that one. -/
def likeForm (likeness : Decomposition.Likeness) (form : Nat) : Nat :=
  match likeness with
  | .canonical => form
  | .wide => if form = capitalForm then 9 else 3
  | .compatible => if form = capitalForm then 10 else 4
  | .styled => if form = capitalForm then 11 else 5
  | .circled => if form = capitalForm then 12 else if form = 0x11 then 0x13 else 6
  | .small => 15
  | .narrow => if form = 15 then 16 else 18
  | .raised => if form = capitalForm then 29 else 20
  | .lowered => 21
  | .upright => 22
  | .initialForm => 23
  | .medialForm => 24
  | .finalForm => 25
  | .isolatedForm => 26
  | .unbroken => 27
  | .squared => if form = capitalForm then 29 else 28
  | .fraction => 30

/-- The groups of characters that are weighed as one. -/
@[irreducible] def joined : List (List Nat × List Weight) :=
  (CodeTable.words Table.joined).map fun word =>
    match CodeTable.cut '=' word with
    | (codes, weights) => (CodeTable.codes codes, (readWeights (weights.getD [])).map (Weight.ofReading 0))

/-- The characters that a group starts with. -/
@[irreducible] def starts : List Nat := joined.filterMap (·.1.head?)

/-- The vowels and consonants that are exchanged when a vowel stands before its consonant. -/
@[irreducible] def exchanged : List (Array (Stretch Unit) × Array (Stretch Unit)) :=
  Table.exchanged.map fun (vowels, consonants) => (CodeTable.set vowels, CodeTable.set consonants)

/-- Whether a vowel is read after the consonant that follows it. -/
def isExchanged (vowel consonant : Nat) : Bool :=
  0xE40 ≤ vowel && vowel ≤ 0xAABC &&
    exchanged.any fun (vowels, consonants) => CodeTable.holds vowels vowel && CodeTable.holds consonants consonant

/-- How texts are weighed: the weights of a character and of a group that is weighed as one, which characters start a group, and
which vowels are read after the consonant that follows them. -/
structure Rules where
  weigh : Nat → List Weight
  join? : List Nat → Option (List Weight)
  starts : Nat → Bool
  exchanges : Nat → Nat → Bool

namespace Rules

/-- The characters at the start of a text that are weighed as one, their weights, and what follows them. -/
def opening (rules : Rules) (code : Nat) (rest : List Nat) : List Nat × List Weight × Nat :=
  let alone := ([code], rules.weigh code, 0)
  if rules.starts code then
    match rules.join? (code :: rest.take 2), rules.join? (code :: rest.take 1) with
    | some weights, _ => (code :: rest.take 2, weights, 2)
    | none, some weights => (code :: rest.take 1, weights, 1)
    | none, none => alone
  else
    match rest with
    | next :: _ => if rules.exchanges code next then ([code, next], rules.weigh next ++ rules.weigh code, 1) else alone
    | [] => alone

/-- Takes further marks into a group from among the marks that follow it, past marks of lower classes; the rest stays. -/
def absorb (rules : Rules) (group : List Nat) (weights : List Weight) (last : Nat) : List Nat → List Weight × List Nat
  | [] => (weights, [])
  | code :: rest =>
    let number := Decomposition.combiningClass code
    if number = 0 then (weights, code :: rest)
    else
      match if last < number then rules.join? (group ++ [code]) else none with
      | some weights => absorb rules (group ++ [code]) weights last rest
      | none =>
        let left := absorb rules group weights number rest
        (left.1, code :: left.2)

theorem length_absorb (rules : Rules) (group : List Nat) (weights : List Weight) (last : Nat) (rest : List Nat) :
    (absorb rules group weights last rest).2.length ≤ rest.length := by
  induction rest generalizing group weights last with
  | nil => simp [absorb]
  | cons code rest ih =>
    rw [absorb]
    dsimp only
    split
    · simp
    · split
      · exact Nat.le_succ_of_le (ih _ _ _)
      · exact Nat.succ_le_succ (ih _ _ _)

/-- The weights of a decomposed text. -/
def gather (rules : Rules) : List Nat → List Weight
  | [] => []
  | code :: rest =>
    let (group, weights, count) := rules.opening code rest
    if rules.starts code then
      let after := rules.absorb group weights 0 (rest.drop count)
      after.1 ++ gather rules after.2
    else weights ++ gather rules (rest.drop count)
termination_by text => text.length
decreasing_by
  · have := length_absorb rules group weights 0 (rest.drop count)
    simp only [List.length_drop, List.length_cons] at *
    omega
  · simp only [List.length_drop, List.length_cons]
    omega

end Rules

/-- The rules for texts of the characters that `weigh` gives weights to. -/
def rules (weigh : Nat → List Weight) : Rules :=
  ⟨weigh, fun group => joined.lookup group, fun code => starts.contains code, isExchanged⟩

/-- The weights of a character of a decomposed text. -/
def weights (code : Nat) : List Weight :=
  match listed? code with
  | some weights => weights
  | none =>
    match Decomposition.parts? code with
    | some (likeness, _) =>
      ((rules plainWeights).gather (Decomposition.allParts code)).map fun w => { w with form := likeForm likeness w.form }
    | none => plainWeights code

/-- The weights of a text. -/
def weightsOf (text : String) : List Weight :=
  (rules weights).gather (Decomposition.decompose (text.toList.map Char.toNat))

/-- The weights of a text that count at one of the levels. -/
def level (pick : Weight → Nat) (weights : List Weight) : List Nat := (weights.map pick).filter (· ≠ 0)

/-- The reading order of two texts. -/
def order (a b : String) : Ordering :=
  let x := weightsOf a
  let y := weightsOf b
  (lexOrder (level (·.base) x) (level (·.base) y)).then <|
    (lexOrder (level (·.accent) x) (level (·.accent) y)).then <|
      lexOrder (level (·.form) x) (level (·.form) y)

end QualityGate.Collation
