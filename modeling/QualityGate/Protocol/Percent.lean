/-!
# Percent signs in addresses

An address is written in some of the ASCII characters. All others stand in it as bytes, each a percent sign and two digits.
-/

namespace QualityGate.Percent

def hexValue? (c : Char) : Option Nat :=
  if '0' ≤ c ∧ c ≤ '9' then some (c.toNat - '0'.toNat)
  else if 'a' ≤ c ∧ c ≤ 'f' then some (c.toNat - 'a'.toNat + 10)
  else if 'A' ≤ c ∧ c ≤ 'F' then some (c.toNat - 'A'.toNat + 10)
  else none

def hexUpper (n : Nat) : Char := (Nat.digitChar n).toUpper

/-- A byte after a percent sign. -/
def ofByte (b : UInt8) : List Char := ['%', hexUpper (b.toNat / 16), hexUpper (b.toNat % 16)]

/-- The bytes of a character. -/
def bytesOf (c : Char) : List UInt8 := (String.singleton c).toUTF8.toList

/-- The text with some of its characters as bytes. -/
def encode (needsPercent : Char → Bool) (text : List Char) : List Char :=
  text.flatMap fun c => if needsPercent c then (bytesOf c).flatMap ofByte else [c]

/-- The control characters and all that is not ASCII. -/
def isControl (c : Char) : Bool := c.toNat < 0x20 || 0x7E < c.toNat

/-- The bytes of a text in which percent signs with two digits stand for bytes. -/
def bytes : List Char → List UInt8
  | '%' :: a :: b :: rest =>
    match hexValue? a, hexValue? b with
    | some x, some y => UInt8.ofNat (x * 16 + y) :: bytes rest
    | _, _ => bytesOf '%' ++ bytes (a :: b :: rest)
  | c :: rest => bytesOf c ++ bytes rest
  | [] => []

/-- Whether every percent sign has its two digits. -/
def isWhole : List Char → Bool
  | '%' :: a :: b :: rest => (hexValue? a).isSome && (hexValue? b).isSome && isWhole rest
  | '%' :: _ => false
  | _ :: rest => isWhole rest
  | [] => true

/-! ## Bytes as characters -/

/-- How many bytes follow a first byte, and the range of the second one; none for a byte that starts no character. -/
def leadOf (b : Nat) : Option (Nat × Nat × Nat) :=
  if 0xC2 ≤ b ∧ b ≤ 0xDF then some (1, 0x80, 0xBF)
  else if b = 0xE0 then some (2, 0xA0, 0xBF)
  else if b = 0xED then some (2, 0x80, 0x9F)
  else if 0xE1 ≤ b ∧ b ≤ 0xEF then some (2, 0x80, 0xBF)
  else if b = 0xF0 then some (3, 0x90, 0xBF)
  else if 0xF1 ≤ b ∧ b ≤ 0xF3 then some (3, 0x80, 0xBF)
  else if b = 0xF4 then some (3, 0x80, 0x8F)
  else none

/-- The bytes that go on a character after its first one: how many of `count` there are, and the value with their bits. -/
def takeTail : Nat → Nat → Nat → Nat → List UInt8 → Nat × Nat
  | 0, _, _, value, _ => (0, value)
  | _ + 1, _, _, value, [] => (0, value)
  | count + 1, low, high, value, b :: rest =>
    if low ≤ b.toNat ∧ b.toNat ≤ high then
      let (n, v) := takeTail count 0x80 0xBF (value * 64 + b.toNat % 64) rest
      (n + 1, v)
    else (0, value)

/-- The characters of at most `count` bytes; a stretch that is no character reads as the replacement character. -/
def charsUpTo : Nat → List UInt8 → List Char
  | 0, _ => []
  | _ + 1, [] => []
  | count + 1, b :: rest =>
    if b.toNat < 0x80 then Char.ofNat b.toNat :: charsUpTo count rest
    else
      match leadOf b.toNat with
      | none => '\uFFFD' :: charsUpTo count rest
      | some (more, low, high) =>
        let start := if more = 1 then b.toNat % 32 else if more = 2 then b.toNat % 16 else b.toNat % 8
        let (n, value) := takeTail more low high start rest
        let c := if n = more then Char.ofNat value else '\uFFFD'
        c :: charsUpTo count (rest.drop n)

/-- The characters of bytes. -/
def chars (bytes : List UInt8) : List Char := charsUpTo bytes.length bytes

/-- The text that a text with percent signs stands for. -/
def decode (text : List Char) : List Char := chars (bytes text)

/-- Whether a text with percent signs stands for characters throughout. -/
def isText (text : List Char) : Bool := (decode text).flatMap bytesOf = bytes text

end QualityGate.Percent
