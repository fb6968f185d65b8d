import QualityGate.Json

/-!
# Reading JSON text

The strict grammar: no trailing commas, no leading zeros, no control characters in texts. A field given twice keeps its first
place and its last value. Half of a surrogate pair that stands alone becomes the replacement character.
-/

namespace QualityGate.Json

/-- The blanks between tokens. -/
def isGap (c : Char) : Bool := c = ' ' || c = '\t' || c = '\n' || c = '\r'

def skipGap (text : List Char) : List Char := text.dropWhile isGap

/-- The value of four hexadecimal digits at the start of a text. -/
def takeHex4 : List Char → Option (Nat × List Char)
  | a :: b :: c :: d :: rest =>
    match Number.digitValue? 16 a, Number.digitValue? 16 b, Number.digitValue? 16 c, Number.digitValue? 16 d with
    | some w, some x, some y, some z => some (((w * 16 + x) * 16 + y) * 16 + z, rest)
    | _, _, _, _ => none
  | _ => none

/-- The character that an escape with four digits stands for, together with a second escape when both form a pair. -/
def takeEscaped (text : List Char) : Option (Char × List Char) :=
  match takeHex4 text with
  | none => none
  | some (n, rest) =>
    if 0xD800 ≤ n ∧ n < 0xDC00 then
      match rest with
      | '\\' :: 'u' :: more =>
        match takeHex4 more with
        | some (m, after) =>
          if 0xDC00 ≤ m ∧ m < 0xE000 then some (Char.ofNat (0x10000 + (n - 0xD800) * 0x400 + (m - 0xDC00)), after)
          else some (Char.ofNat 0xFFFD, rest)
        | none => some (Char.ofNat 0xFFFD, rest)
      | _ => some (Char.ofNat 0xFFFD, rest)
    else if 0xDC00 ≤ n ∧ n < 0xE000 then some (Char.ofNat 0xFFFD, rest)
    else some (Char.ofNat n, rest)

/-- The character that a one-letter escape stands for. -/
def simpleEscape? : Char → Option Char
  | '"' => some '"'
  | '\\' => some '\\'
  | '/' => some '/'
  | 'b' => some '\x08'
  | 'f' => some '\x0c'
  | 'n' => some '\n'
  | 'r' => some '\r'
  | 't' => some '\t'
  | _ => none

/-- The rest of a text after its opening quote, up to the closing one. -/
def takeString : Nat → List Char → List Char → Option (String × List Char)
  | 0, _, _ => none
  | fuel + 1, done, text =>
    match text with
    | [] => none
    | '"' :: rest => some (String.ofList done.reverse, rest)
    | '\\' :: 'u' :: rest =>
      match takeEscaped rest with
      | some (c, after) => takeString fuel (c :: done) after
      | none => none
    | '\\' :: e :: rest =>
      match simpleEscape? e with
      | some c => takeString fuel (c :: done) rest
      | none => none
    | c :: rest => if c = '\\' ∨ c.toNat < 0x20 then none else takeString fuel (c :: done) rest

/-- The digits after a point or an exponent mark, at least one. -/
def takeDigits1 (text : List Char) : Option (List Char × List Char) :=
  let ds := text.takeWhile Char.isDigit
  if ds.isEmpty then none else some (ds, text.dropWhile Char.isDigit)

/-- The fraction of a numeral, if it has one; a point with no digit after it is an error. -/
def takeFraction : List Char → Option (List Char × List Char)
  | '.' :: rest => takeDigits1 rest
  | text => some ([], text)

/-- The exponent of a numeral, if it has one; a mark with no digit after it is an error. -/
def takeScale : List Char → Option (Int × List Char)
  | c :: rest =>
    if c = 'e' ∨ c = 'E' then
      let (negative, after) := Number.takeSign rest
      (takeDigits1 after).map fun (ds, more) =>
        let n : Int := Number.ofDigits 10 ds
        (if negative then -n else n, more)
    else some (0, c :: rest)
  | [] => some (0, [])

/-- A numeral at the start of a text. -/
def takeNumber (text : List Char) : Option (Number × List Char) := do
  let (negative, body) := match text with
    | '-' :: rest => (true, rest)
    | _ => (false, text)
  let (whole, afterWhole) ← takeDigits1 body
  if whole.head? = some '0' ∧ whole.length ≠ 1 then none
  let (fraction, afterFraction) ← takeFraction afterWhole
  let (scale, rest) ← takeScale afterFraction
  let magnitude := Number.ofScaled (Number.ofDigits 10 (whole ++ fraction)) (scale - fraction.length)
  return (if negative then magnitude.neg else magnitude, rest)

/-- A fixed word at the start of a text. -/
def takeWord (word : String) (value : Json) (text : List Char) : Option (Json × List Char) :=
  if word.toList.isPrefixOf text then some (value, text.drop word.length) else none

mutual

/-- A value at the start of a text. -/
def takeValue : Nat → List Char → Option (Json × List Char)
  | 0, _ => none
  | fuel + 1, text =>
    match skipGap text with
    | '"' :: rest => (takeString (rest.length + 1) [] rest).map fun (s, after) => (str s, after)
    | '[' :: rest =>
      match skipGap rest with
      | ']' :: after => some (arr [], after)
      | _ => takeItems fuel [] rest
    | '\x7b' :: rest =>
      match skipGap rest with
      | '\x7d' :: after => some (obj [], after)
      | _ => takeFields fuel [] rest
    | 't' :: rest => takeWord "true" (bool true) ('t' :: rest)
    | 'f' :: rest => takeWord "false" (bool false) ('f' :: rest)
    | 'n' :: rest => takeWord "null" null ('n' :: rest)
    | other => (takeNumber other).map fun (x, after) => (num x, after)

/-- The items of a list up to its closing bracket. -/
def takeItems : Nat → List Json → List Char → Option (Json × List Char)
  | 0, _, _ => none
  | fuel + 1, done, text =>
    match takeValue fuel text with
    | none => none
    | some (item, after) =>
      match skipGap after with
      | ',' :: rest => takeItems fuel (item :: done) rest
      | ']' :: rest => some (arr (item :: done).reverse, rest)
      | _ => none

/-- The fields of an object up to its closing brace. -/
def takeFields : Nat → Record Json → List Char → Option (Json × List Char)
  | 0, _, _ => none
  | fuel + 1, done, text =>
    match skipGap text with
    | '"' :: rest =>
      match takeString (rest.length + 1) [] rest with
      | none => none
      | some (name, after) =>
        match skipGap after with
        | ':' :: more =>
          match takeValue fuel more with
          | none => none
          | some (value, afterValue) =>
            match skipGap afterValue with
            | ',' :: remaining => takeFields fuel (Record.set done name value) remaining
            | '\x7d' :: remaining => some (obj (Record.set done name value), remaining)
            | _ => none
        | _ => none
    | _ => none

end

/-- The value that a whole text stands for, if it is well formed. -/
def ofText? (text : String) : Option Json :=
  let body := text.toList
  match takeValue (body.length + 1) body with
  | some (value, rest) => if (skipGap rest).isEmpty then some value else none
  | none => none

end QualityGate.Json
