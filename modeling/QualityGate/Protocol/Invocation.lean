import QualityGate.Protocol.Message

/-!
# Requests on the command line

A command such as `analyze complexity` with its flags, and what a response prints.
-/

namespace QualityGate

/-- Command words, the arguments after them and the flags that they give. -/
structure Invocation where
  command : List String
  args : List String
  flags : Record Json
  deriving Inhabited

instance : Decode Invocation where
  decode? j := do
    return { command := j.fieldD "command" [], args := j.fieldD "args" [],
             flags := ((j.get? "flags").bind Json.fields?).getD [] }

namespace Invocation

/-- The field of a request that a flag is for. -/
def fieldOfFlag (flag : String) : String := Text.swapChar flag '-' '_'

def analyzePath : String := "/api/v1/analyze/"

def templatesPath : String := "/api/v1/templates"

/-- The method and the path that a command asks for. -/
def route (command : List String) : Except Failure (RequestMethod × Place) :=
  match command with
  | "analyze" :: kind :: _ => if kind = "" then unknown else .ok (.post, .path (analyzePath ++ kind))
  | "list" :: _ | "templates" :: _ => .ok (.get, .path templatesPath)
  | head :: _ =>
    match Inherited.ofName? head with
    | some answer => .ok (.get, .inherited answer)
    | none => unknown
  | [] => unknown
where
  unknown :=
    let words := Text.join " " command
    let shown := if words = "" then "(none)" else words
    .error (.protocol .decode s!"Unknown command: {shown}" none)

/-- The fields that flags assign. -/
def assignments (flags : Record Json) : List (String × Json) := flags.map fun (name, value) => (fieldOfFlag name, value)

/-- The body that flags make. -/
def body (flags : Record Json) : Record Json := Record.assignAll (assignments flags)

/-- The format that flags ask for, if only through the record that they put behind the body. -/
def format (flags : Record Json) : OutputFormat :=
  let behind := (assignments flags).filterMap fun (name, value) => if name = Inherited.baseName then behind? value else none
  .ofJson (((body flags).get? "format").or (behind.getLast?.bind (·.get? "format")))
where
  behind? : Json → Option Json
    | .bool _ | .num _ | .str _ => none
    | value => some value

def toRequest (i : Invocation) : Except Failure Request := do
  let (method, path) ← route i.command
  return { method, path, body := (Json.obj (body i.flags)).compact, headers := Response.typeHeader Response.jsonType,
           format := format i.flags, asked := .cli (Text.join " " i.command) i.args }

end Invocation

/-- What a command prints, and the code it ends with. -/
structure Printout where
  exitCode : Nat
  stdout : String
  stderr : String
  deriving DecidableEq, Repr, Inhabited

instance : Encode Printout where
  encode p := .obj [("exitCode", encode p.exitCode), ("stdout", encode p.stdout), ("stderr", encode p.stderr)]

/-- An answer is printed and ends with 0; a client's fault ends with 1 and one of the program's with 2. -/
def Response.toPrintout (r : Response) : Printout :=
  if r.status < 400 then ⟨0, r.body, ""⟩ else ⟨if r.status < 500 then 1 else 2, "", r.errorMessage⟩

end QualityGate
