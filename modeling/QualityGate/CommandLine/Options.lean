import QualityGate.Failure
import QualityGate.Record
import QualityGate.Text.Search

/-!
# Options on a command line

A command takes options with or without a value, given by a name after two hyphens; a value follows as the next word or after an
equals sign. Words that are no options are refused.
-/

namespace QualityGate

/-- What an option takes. -/
inductive OptionKind where
  | flag
  | value
  /-- An option that may be given more than once. -/
  | values
  deriving DecidableEq, Repr, Inhabited

abbrev OptionTable := List (String × OptionKind)

namespace Options

/-- A word of a command line as it is read. -/
inductive Token where
  /-- An option, the way it was written, and its value, with whether it stood in the same word. -/
  | option (name raw : String) (value : Option String) (inline : Bool)
  | word (text : String)
  deriving DecidableEq, Repr, Inhabited

def takesValue (table : OptionTable) (name : String) : Bool :=
  match table.lookup name with
  | some .value | some .values => true
  | _ => false

/-- A word of an option group of one hyphen is one option per letter; of those the table knows none, so the first one decides. -/
def shortOptions (letters : List Char) : List Token :=
  letters.map fun c => .option (String.singleton c) ("-" ++ String.singleton c) none false

/-- The tokens of a command line. After two hyphens alone all words are plain. -/
def tokens (table : OptionTable) : List String → List Token
  | [] => []
  | arg :: rest =>
    if arg = "--" then rest.map .word
    else
      match arg.toList with
      | '-' :: '-' :: body =>
        match indexOf? ['='] body with
        | some i =>
          if i = 0 && !(body.drop 1).contains '=' then .option (String.ofList body) arg none false :: tokens table rest
          else
            let name := String.ofList (body.take i)
            .option name ("--" ++ name) (some (String.ofList (body.drop (i + 1)))) true :: tokens table rest
        | none =>
          let name := String.ofList body
          if takesValue table name then
            match rest with
            | next :: after => .option name arg (some next) false :: tokens table after
            | [] => [.option name arg none false]
          else .option name arg none false :: tokens table rest
      | ['-'] => .word arg :: tokens table rest
      | '-' :: letters => shortOptions letters ++ tokens table rest
      | _ => .word arg :: tokens table rest

/-- The value of a flag or an option. -/
inductive Value where
  | on
  | text (s : String)
  | texts (ss : List String)
  deriving DecidableEq, Repr, Inhabited

def missingValue (name : String) : String :=
  let option := "'--" ++ name ++ " <value>'"
  s!"Option {option} argument missing"

/-- A value that looks like another option. -/
def ambiguous (raw : String) : String :=
  let option := "'" ++ raw ++ "'"
  let usage := "'" ++ raw ++ "=-XYZ'"
  s!"Option {option} argument is ambiguous.\nDid you forget to specify the option argument for {option}?\n" ++
    s!"To specify an option argument starting with a dash use {usage}."

/-- What is wrong with a token, if anything. -/
def fault? (table : OptionTable) : Token → Option String
  | .word text =>
    let shown := "'" ++ text ++ "'"
    some s!"Unexpected argument {shown}. This command does not take positional arguments"
  | .option name raw value inline =>
    match table.lookup name with
    | none =>
      let shown := "'" ++ raw ++ "'"
      some s!"Unknown option {shown}"
    | some .flag =>
      let shown := "'--" ++ name ++ "'"
      if value.isSome then some s!"Option {shown} does not take an argument" else none
    | some _ =>
      match value with
      | none => some (missingValue name)
      | some v => if !inline && Text.starts v "-" && v ≠ "-" then some (ambiguous raw) else none

/-- The values with those of one more token. -/
def store (table : OptionTable) (values : Record Value) : Token → Record Value
  | .word _ => values
  | .option name _ value _ =>
    match table.lookup name, value with
    | some .flag, _ => values.set name .on
    | some .value, some v => values.set name (.text v)
    | some .values, some v =>
      match values.get? name with
      | some (.texts vs) => values.set name (.texts (vs ++ [v]))
      | _ => values.set name (.texts [v])
    | _, _ => values

/-- The values of the options on a command line, in the order in which they were first given. -/
def read (table : OptionTable) (args : List String) : Except Failure (Record Value) :=
  (tokens table args).foldlM (fun values token =>
    match fault? table token with
    | some message => .error (.usage message)
    | none => .ok (store table values token)) []

instance : Encode Value where
  encode
    | .on => .bool true
    | .text s => .str s
    | .texts ss => encode ss

end Options

end QualityGate
