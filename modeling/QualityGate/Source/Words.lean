import QualityGate.Text.Pattern

/-!
# Words and signs in code

Keywords are counted as whole words: the longest runs of letters, digits and underscores. Operators are counted from left to
right without overlap. Identifiers may also hold a dollar sign and do not start with a digit.
-/

namespace QualityGate

/-- The longest runs of characters that pass a test; `run` is the run at hand, latest first. -/
def runsFrom (test : Char → Bool) (run : List Char) : List Char → List (List Char)
  | [] => if run.isEmpty then [] else [run.reverse]
  | c :: rest =>
    if test c then runsFrom test (c :: run) rest
    else if run.isEmpty then runsFrom test [] rest
    else run.reverse :: runsFrom test [] rest

/-- The words of a text. -/
def wordsOf (text : List Char) : List (List Char) := runsFrom isWordChar [] text

/-- How many words of a text are among the given ones. -/
def countWords (keywords : List String) (text : List Char) : Nat :=
  (wordsOf text).countP fun w => keywords.contains (String.ofList w)

/-- Whether a text holds one of the given words. -/
def hasWord (keywords : List String) (text : List Char) : Bool :=
  (wordsOf text).any fun w => keywords.contains (String.ofList w)

/-- How many of the given signs, all of two characters, stand in a text. -/
def countSigns (signs : List (Char × Char)) : List Char → Nat
  | a :: b :: rest => if signs.contains (a, b) then 1 + countSigns signs rest else countSigns signs (b :: rest)
  | _ => 0

/-- Whether the first word of a text, after blanks alone, is the given one. -/
def startsWithWord (word : String) (text : List Char) : Bool :=
  let body := trimStart text
  word.toList.isPrefixOf body && (body.drop word.length).head?.all (!isWordChar ·)

/-- How often the first word stands in a text with nothing but blanks before the second one. -/
def countPair (first second : String) : List Char → Nat := fun text =>
  (Pattern.findAll
    (.all [.wordEdge, .lit first, .blanks1, .lit second, .wordEdge]) text).length

/-- Whether a character may stand in an identifier that allows the dollar sign. -/
def isNameChar (c : Char) : Bool := isWordChar c || c = '$'

/-- The identifiers of a text: runs of identifier characters without their leading digits. -/
def identifiersOf (text : List Char) : List (List Char) :=
  ((runsFrom isNameChar [] text).map (·.dropWhile Char.isDigit)).filter (!·.isEmpty)

end QualityGate
