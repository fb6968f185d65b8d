import QualityGate.Count
import QualityGate.Protocol.DomainName
import QualityGate.Protocol.Percent

/-!
# Hosts

What an address may name as its host: a domain name, four bytes as numbers, or eight groups of digits in brackets.
-/

namespace QualityGate.Host

/-- Characters that no host has. -/
def isForbidden (c : Char) : Bool :=
  c = '\x00' || c = '\t' || c = '\n' || c = '\r' || c = ' ' || c = '#' || c = '/' || c = ':' || c = '<' || c = '>' || c = '?' ||
    c = '@' || c = '[' || c = '\\' || c = ']' || c = '^' || c = '|'

/-- Characters that no domain name has. -/
def isForbiddenInName (c : Char) : Bool := isForbidden c || c.toNat < 0x20 || c = '%' || c = '\x7f'

/-! ## Numbers as hosts -/

/-- The number of a part of a numeric host: with a leading zero to base 8, after 0x to base 16. -/
def number? (part : List Char) : Option Nat :=
  let read (base : Nat) (ds : List Char) : Option Nat :=
    ds.foldlM (fun total c => (Percent.hexValue? c).bind fun d => if d < base then some (total * base + d) else none) 0
  match part with
  | [] => none
  | '0' :: x :: rest => if x = 'x' ∨ x = 'X' then read 16 rest else read 8 (x :: rest)
  | _ => read 10 part

/-- The parts of a name; a point at its end ends the last one. -/
def parts (name : List Char) : List (List Char) :=
  let parts := splitWhere (· = '.') name
  if parts.getLast? = some [] ∧ 1 < parts.length then parts.dropLast else parts

/-- Whether a name ends in a number, and so has to be one as a whole. -/
def isNumeric (name : List Char) : Bool :=
  let last := (parts name).getLast?.getD []
  !last.isEmpty && (last.all Char.isDigit || (number? last).isSome)

/-- Whether a numeric host stands for four bytes; the last number may stand for several of them. -/
def isFourBytes (name : List Char) : Bool :=
  let numbers := (parts name).map number?
  numbers.length ≤ 4 && numbers.all Option.isSome && (numbers.dropLast.all fun n => n.getD 256 < 256) &&
    numbers.getLast?.join.getD 0 < power 256 (5 - numbers.length)

/-! ## Groups of digits -/

/-- Whether a text is a group of digits to base 16. -/
def isGroup (text : List Char) : Bool := !text.isEmpty && text.length ≤ 4 && text.all fun c => (Percent.hexValue? c).isSome

/-- Whether a text is a byte in decimal digits. -/
def isByte (text : List Char) : Bool :=
  !text.isEmpty && text.length ≤ 3 && text.all Char.isDigit && (text.length = 1 || text.head? != some '0') &&
    (number? text).any (· < 256)

/-- Whether a text is four bytes with points between them. -/
def isQuad (text : List Char) : Bool :=
  let bytes := splitWhere (· = '.') text
  bytes.length = 4 && bytes.all isByte

/-- Whether groups, cut at the colons, go on an address of eight of which `seen` are there. One gap, an empty group, may stand for
any number of them, and four bytes for the last two. -/
def isGroups (seen : Nat) (gap : Bool) : List (List Char) → Bool
  | [] => false
  | [[]] => gap
  | [] :: rest => seen < 8 && !gap && isGroups (seen + 1) true rest
  | [group] =>
    if group.contains '.' then seen ≤ 6 && isQuad group && (gap || seen = 6)
    else seen < 8 && isGroup group && (gap || seen = 7)
  | group :: rest => seen < 8 && isGroup group && rest != [[]] && isGroups (seen + 1) gap rest

/-- Whether a text in brackets is an address of eight groups. -/
def isEightGroups (text : List Char) : Bool :=
  match splitWhere (· = ':') text with
  | [] :: [] :: rest => isGroups 1 true rest
  | [] :: _ => false
  | groups => isGroups 0 false groups

/-! ## Hosts as they are written -/

/-- Whether a text spells a domain name, or four bytes, in any letters and with percent signs. -/
def isName (text : List Char) : Bool :=
  Percent.isText text &&
    match DomainName.ofText? (Percent.decode text) with
    | none => false
    | some name => !name.isEmpty && !name.any isForbiddenInName && (!isNumeric name || isFourBytes name)

/-- Whether a text names a host: where names are looked up, a domain name or numbers, else any text that a host may have. -/
def isGood (looksUp : Bool) (text : List Char) : Bool :=
  match text with
  | '[' :: rest => rest.getLast? = some ']' && isEightGroups rest.dropLast
  | _ => if looksUp then isName text else !text.any isForbidden

/-- A text cut at the first colon outside of brackets, at which a port starts. -/
def cutPort (inBrackets : Bool) : List Char → List Char × Option (List Char)
  | [] => ([], none)
  | c :: rest =>
    if c = ':' && !inBrackets then ([], some rest)
    else
      let (host, port) := cutPort (if c = '[' then true else if c = ']' then false else inBrackets) rest
      (c :: host, port)

def isPort (port : List Char) : Bool :=
  port.all Char.isDigit && port.foldl (fun n c => n * 10 + (c.toNat - '0'.toNat)) 0 < 65536

/-- Whether a text between the slashes and the path of an address is in order: perhaps a user, the host, and perhaps a port. Where
names are not looked up, all may be missing. -/
def isGoodAuthority (looksUp : Bool) (text : List Char) : Bool :=
  let place := (text.reverse.takeWhile (· ≠ '@')).reverse
  if place.isEmpty then !looksUp && text.isEmpty
  else
    let (host, port) := cutPort false place
    !host.isEmpty && isGood looksUp host && isPort (port.getD [])

end QualityGate.Host
