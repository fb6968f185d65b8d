import QualityGate.Json.Plain
import QualityGate.Text.Search
import QualityGate.Text.Units

/-!
# Failures

Everything that can go wrong, by cause. What a user reads about a failure is `Failure.message`.
-/

namespace QualityGate

/-- What about a request or a response is not as it has to be. -/
inductive ProtocolFault where
  | decode
  | encode
  | unsupportedProtocol
  | invalidFormat
  | io
  | json
  | http
  /-- A fault of a kind that only its maker knows. -/
  | other (name : String)
  deriving DecidableEq, Repr, Inhabited

namespace ProtocolFault

def all : List ProtocolFault := [decode, encode, unsupportedProtocol, invalidFormat, io, json, http]

def name : ProtocolFault → String
  | decode => "Decode"
  | encode => "Encode"
  | unsupportedProtocol => "UnsupportedProtocol"
  | invalidFormat => "InvalidFormat"
  | io => "Io"
  | json => "Json"
  | http => "Http"
  | other name => name

def ofName (text : String) : ProtocolFault := (all.find? fun f => f.name = text).getD (other text)

/-- The response status: a fault of the client's or one of the program's own. -/
def status : ProtocolFault → Nat
  | decode | invalidFormat | json => 400
  | _ => 500

end ProtocolFault

/-- What went wrong. -/
inductive Failure where
  /-- Settings, flags or project files cannot be used as they are. -/
  | configuration (message : String)
  /-- The command line is not one of the known ones. -/
  | usage (message : String)
  /-- Another process holds the cache. -/
  | lockHeld (path : String) (owner : Int)
  | commandFailed (command : String) (exitCode : Int) (stderr : String)
  /-- The agent's output holds no answer. -/
  | unreadableAnswer (command : String)
  | canceled (message : String)
  | protocol (fault : ProtocolFault) (message : String) (details : Option Json)
  | noHandler (method path : String)
  /-- A remote call that is answered by an error object. -/
  | call (code : Int) (message : String) (id : Json) (data : Option Json)
  | invalidAddress
  /-- A text that is no JSON. -/
  | malformedJson
  /-- A figure that would have to be a number. -/
  | noNumber (name : String)
  /-- A time that has no text. -/
  | invalidTime
  /-- A path that no file can have. -/
  | pathWithNul (path : String)
  /-- A file or directory that cannot be used in this way. -/
  | file (code message : String)
  | other (message : String)
  /-- Something that is no failure by its type but was raised as one. -/
  | raised (value : Json)
  deriving Inhabited

namespace Failure

/-- What is said of a text that is no JSON. -/
def jsonDetail : String := "<detail>"

/-- The first line of a text without the blanks around the text. -/
def firstLine (text : String) : String := String.ofList ((trim text.toList).takeWhile (· ≠ '\n'))

/-- How many characters of a refused value are shown. -/
def shownLimit : Nat := 128

/-- A character between quotes: control characters, backslashes and the quote itself are written with a backslash. -/
def escape (quote : Char) (c : Char) : List Char :=
  let named := [('\x08', 'b'), ('\t', 't'), ('\n', 'n'), ('\x0c', 'f'), ('\r', 'r'), ('\\', '\\'), (quote, quote)]
  match named.lookup c with
  | some letter => ['\\', letter]
  | none =>
    if c.toNat < 0x20 ∨ (0x7F ≤ c.toNat ∧ c.toNat < 0xA0) then
      ['\\', 'x', (Nat.digitChar (c.toNat / 16)).toUpper, (Nat.digitChar (c.toNat % 16)).toUpper]
    else [c]

/-- A text between quotes: single ones, or other ones if the text holds single quotes and none of the others. -/
def quoted (text : String) : String :=
  let chars := text.toList
  let quote :=
    if !chars.contains '\'' then '\''
    else if !chars.contains '"' then '"'
    else if !chars.contains '\x60' ∧ !Text.has text "$\x7b" then '\x60'
    else '\''
  let shown := [quote] ++ chars.flatMap (escape quote) ++ [quote]
  if shownLimit < units shown then String.ofList (takeUnits shownLimit shown) ++ "..." else String.ofList shown

/-- What a user reads about a failure. -/
def message : Failure → String
  | configuration m | usage m | canceled m | other m => m
  | protocol _ m _ | file _ m => m
  | call _ m _ _ => m
  | lockHeld path owner => s!"Cache is locked by process {owner} ({path})"
  | commandFailed command exitCode stderr =>
    let detail := firstLine stderr
    s!"{command} exited with {exitCode}" ++ (if detail = "" then "" else s!": {detail}")
  | unreadableAnswer command => s!"Agent output contained neither a JSON answer nor a fenced code block ({command})"
  | noHandler method path => s!"No handler for {method} {path}"
  | invalidAddress => "Invalid URL"
  | malformedJson => jsonDetail
  | noNumber name => s!"{name}.toFixed is not a function"
  | invalidTime => "Invalid time value"
  | pathWithNul path =>
    s!"The argument 'path' must be a string, Uint8Array, or URL without null bytes. Received {quoted path}"
  | raised value => value.plain

end Failure

end QualityGate
