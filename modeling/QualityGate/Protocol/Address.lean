import QualityGate.Protocol.Host
import QualityGate.Record

/-!
# Web addresses

The path and the query of an address as it stands in a request line: an absolute address, or one seen from the root of a host.
Steps such as `..` are worked out also when they are written with percent signs, and tabs and line breaks do not count. In addresses
of the web and of files backslashes count as slashes.
-/

namespace QualityGate

/-- The parts of an address that a request is about: its path, its query as it is written, and the named values of the query. -/
structure Address where
  path : String
  search : String
  query : Record String
  deriving DecidableEq, Repr, Inhabited

namespace Address

/-- What the name of an address's scheme says about the rest of it. -/
inductive Kind where
  | web
  | file
  | other
  deriving DecidableEq, Repr, Inhabited

/-- Characters that are taken away around an address. -/
def isEdge (c : Char) : Bool := c.toNat ≤ 0x20

/-- The text of an address that counts. -/
def strip (text : List Char) : List Char :=
  let inner := ((text.dropWhile isEdge).reverse.dropWhile isEdge).reverse
  inner.filter fun c => c ≠ '\t' ∧ c ≠ '\n' ∧ c ≠ '\r'

def Kind.isSlash (k : Kind) (c : Char) : Bool := c = '/' || k ≠ .other && c = '\\'

/-! ## The query -/

/-- Characters of a query that are written with percent signs. -/
def needsPercentInQuery (k : Kind) (c : Char) : Bool :=
  Percent.isControl c || c = ' ' || c = '"' || c = '#' || c = '<' || c = '>' || k ≠ .other && c = '\''

/-- A part of a query: plus signs are blanks. -/
def decodeQueryPart (part : List Char) : String :=
  String.ofList (Percent.decode (part.map fun c => if c = '+' then ' ' else c))

/-- The named values of a query; of values under one name the last one counts. -/
def readQuery (text : List Char) : Record String :=
  let parts := (splitWhere (· = '&') text).filter (!·.isEmpty)
  Record.ofPairs (parts.map fun part =>
    (decodeQueryPart (part.takeWhile (· ≠ '=')), decodeQueryPart ((part.dropWhile (· ≠ '=')).drop 1)))

/-- The part before the query and the query, without the fragment. -/
def splitQuery (text : List Char) : List Char × List Char :=
  let body := text.takeWhile (· ≠ '#')
  (body.takeWhile (· ≠ '?'), (body.dropWhile (· ≠ '?')).drop 1)

/-- The address with a path and a query. -/
def of (k : Kind) (path : String) (query : List Char) : Address where
  path
  search := if query.isEmpty then "" else "?" ++ String.ofList (Percent.encode (needsPercentInQuery k) query)
  query := readQuery query

/-! ## The path -/

/-- Characters of a path that are written with percent signs. -/
def needsPercent (c : Char) : Bool :=
  Percent.isControl c || c = ' ' || c = '"' || c = '#' || c = '<' || c = '>' || c = '?' || c = '\x60' || c = '\x7b' || c = '\x7d'

/-- A segment with its points written out. -/
def pointsOf : List Char → List Char
  | '%' :: '2' :: e :: rest => if e = 'e' ∨ e = 'E' then '.' :: pointsOf rest else '%' :: '2' :: pointsOf (e :: rest)
  | c :: rest => c :: pointsOf rest
  | [] => []

/-- Whether a segment is the letter of a drive. -/
def isDrive : List Char → Bool
  | [letter, sign] => letter.isAlpha && (sign = ':' || sign = '|')
  | _ => false

/-- A segment as it stands in a path; in the path of a file the first one may be a drive. -/
def Kind.segment (k : Kind) (isFirst : Bool) (text : List Char) : List Char :=
  if k = .file && isFirst && isDrive text then text.take 1 ++ [':'] else Percent.encode needsPercent text

/-- Whether a path ends where there is no step up: at the drive of a file. -/
def Kind.isTop (k : Kind) (stack : List (List Char)) : Bool :=
  match stack with
  | [segment] => k = .file && isDrive segment && segment.contains ':'
  | _ => false

/-- One more segment on a stack of segments, latest first. A step at the end of a path leaves an empty segment. -/
def pushSegment (k : Kind) (last : Bool) (stack : List (List Char)) (segment : List Char) : List (List Char) :=
  let points := pointsOf segment
  if points = ['.', '.'] then
    let shorter := if k.isTop stack then stack else stack.drop 1
    if last then [] :: shorter else shorter
  else if points = ['.'] then
    if last then [] :: stack else stack
  else k.segment stack.isEmpty segment :: stack

/-- The stack after all segments of a path. -/
def pushAll (k : Kind) : List (List Char) → List (List Char) → List (List Char)
  | stack, [] => stack
  | stack, [segment] => pushSegment k true stack segment
  | stack, segment :: rest => pushAll k (pushSegment k false stack segment) rest

/-- A path with its steps worked out. -/
def readPath (k : Kind) (text : List Char) : String :=
  let body := match text with
    | c :: rest => if k.isSlash c then rest else text
    | [] => []
  let segments := (pushAll k [] (splitWhere k.isSlash body)).reverse
  String.ofList (segments.flatMap fun s => '/' :: s)

/-! ## Whole addresses -/

/-- The name of a scheme before a colon, and what follows it. -/
def scheme? (text : List Char) : Option (List Char × List Char) :=
  match text with
  | [] => none
  | c :: _ =>
    if c.isAlpha then
      let name := text.takeWhile fun d => d.isAlphanum || d = '+' || d = '-' || d = '.'
      match text.drop name.length with
      | ':' :: rest => some (name.map Char.toLower, rest)
      | _ => none
    else none

/-- The scheme of the host that addresses are seen from. -/
def ownScheme : List Char := "http".toList

def webSchemes : List (List Char) := ["http", "https", "ws", "wss", "ftp"].map String.toList

/-- An address of the web after the slashes that lead to a host. -/
def ofHost? (text : List Char) : Option Address :=
  let (before, query) := splitQuery text
  let authority := before.takeWhile fun c => !Kind.web.isSlash c
  if Host.isGoodAuthority true authority then some (of .web (readPath .web (before.drop authority.length)) query) else none

/-- An address seen from the root of a host. -/
def ofRelative? (text : List Char) : Option Address :=
  if text.length ≥ 2 ∧ (text.take 2).all Kind.web.isSlash then ofHost? (text.dropWhile Kind.web.isSlash)
  else
    let (before, query) := splitQuery text
    some (of .web (readPath .web before) query)

/-- An address of a file, perhaps on a host; a drive is no host. -/
def ofFile? (text : List Char) : Option Address :=
  let (before, query) := splitQuery text
  let whole := fun (path : List Char) => some (of .file (readPath .file path) query)
  if before.length ≥ 2 ∧ (before.take 2).all Kind.file.isSlash then
    let rest := before.drop 2
    let host := rest.takeWhile fun c => !Kind.file.isSlash c
    if isDrive host then whole rest
    else if host.isEmpty || Host.isGood true host then whole (rest.drop host.length)
    else none
  else whole before

/-- An address of any other scheme: with slashes a host may lead it, and without any its path has no segments. -/
def ofOther? (text : List Char) : Option Address :=
  let (before, query) := splitQuery text
  match before with
  | '/' :: '/' :: rest =>
    let authority := rest.takeWhile (· ≠ '/')
    let path := rest.drop authority.length
    if Host.isGoodAuthority false authority then some (of .other (if path.isEmpty then "" else readPath .other path) query)
    else none
  | '/' :: _ => some (of .other (readPath .other before) query)
  | _ => some (of .other (String.ofList (Percent.encode Percent.isControl before)) query)

/-- The address of a text. -/
def ofText? (text : String) : Option Address :=
  let body := strip text.toList
  match scheme? body with
  | none => ofRelative? body
  | some (name, rest) =>
    if name = ownScheme ∧ rest.take 2 ≠ ['/', '/'] then ofRelative? rest
    else if name = "file".toList then ofFile? rest
    else if webSchemes.contains name then ofHost? (rest.dropWhile Kind.web.isSlash)
    else ofOther? rest

end Address

end QualityGate
