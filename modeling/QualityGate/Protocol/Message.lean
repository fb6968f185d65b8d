import QualityGate.Failure
import QualityGate.Json.Parser
import QualityGate.Json.Printer
import QualityGate.Record.Inherited
import QualityGate.Text.Search

/-!
# Requests and responses

Every way to ask for an analysis is turned into one kind of request, and every answer is one kind of response. What only one way of
asking knows about travels in the request's extensions.
-/

namespace QualityGate

/-- A way to ask. -/
inductive Protocol where
  | cli
  | http
  | mcp
  deriving DecidableEq, Repr, Inhabited

namespace Protocol

def name : Protocol → String
  | cli => "Cli"
  | http => "Http"
  | mcp => "Mcp"

instance : Encode Protocol := ⟨fun p => .str p.name⟩

end Protocol

/-- A form in which an analysis is written. -/
inductive OutputFormat where
  | summary
  | full
  | json
  | sarif
  | markdown
  deriving DecidableEq, Repr, Inhabited

namespace OutputFormat

def all : List OutputFormat := [summary, full, json, sarif, markdown]

def name : OutputFormat → String
  | summary => "summary"
  | full => "full"
  | json => "json"
  | sarif => "sarif"
  | markdown => "markdown"

def names : List String := all.map name

def ofName? (text : String) : Option OutputFormat := all.find? fun f => f.name = text

/-- The format that a value names; JSON when it names none. -/
def ofJson (j : Option Json) : OutputFormat := ((j.bind Json.str?).bind ofName?).getD json

instance : Encode OutputFormat := ⟨fun f => .str f.name⟩
instance : Decode OutputFormat := ⟨fun j => j.str?.bind ofName?⟩

end OutputFormat

/-- The two methods of requests. -/
inductive RequestMethod where
  | get
  | post
  deriving DecidableEq, Repr, Inhabited

namespace RequestMethod

def name : RequestMethod → String
  | get => "GET"
  | post => "POST"

def ofName? (text : String) : Option RequestMethod :=
  if text = "GET" then some get else if text = "POST" then some post else none

instance : Encode RequestMethod := ⟨fun m => .str m.name⟩
instance : Decode RequestMethod := ⟨fun j => j.str?.bind ofName?⟩

end RequestMethod

/-- What only the way of asking knows about a request. -/
inductive Asked where
  | cli (command : String) (args : List String)
  | http (query : Record String) (remoteAddress : Option String)
  | mcp (id : Json) (method : String)
  deriving Inhabited

namespace Asked

def protocol : Asked → Protocol
  | cli .. => .cli
  | http .. => .http
  | mcp .. => .mcp

/-- The name of the field that holds what is known, and what is known. -/
def context : Asked → String × Json
  | cli command args => ("cliContext", .obj [("command", .str command), ("args", .strings args)])
  | http query remote =>
    ("httpContext", .present [("query", some (.obj (query.map fun (n, v) => (n, .str v)))), ("remoteAddress", remote.map .str)])
  | mcp id method => ("mcpContext", .obj [("id", id), ("method", .str method)])

/-- The query of an address, if the request had one. -/
def query : Asked → Record String
  | http query _ => query
  | _ => []

end Asked

/-- The place that a request asks for: a path, or the answer that every record has to the name that was asked for. -/
inductive Place where
  | path (text : String)
  | inherited (answer : Inherited)
  deriving DecidableEq, Repr, Inhabited

namespace Place

instance : Coe String Place := ⟨path⟩

/-- A place as routes and messages have it. -/
def text : Place → String
  | path text => text
  | inherited answer => answer.text

/-- A place in an answer; a function is left out of it. -/
def json? : Place → Option Json
  | path text => some (.str text)
  | inherited .base => some (.obj [])
  | inherited (.function _) => none

end Place

/-- A request, however it was made. -/
structure Request where
  method : RequestMethod
  path : Place
  body : String
  headers : Record String
  format : OutputFormat
  asked : Asked
  deriving Inhabited

def textRecord (r : Record String) : Json := .obj (r.map fun (n, v) => (n, .str v))

instance : Encode Request where
  encode r :=
    let (contextName, context) := r.asked.context
    .present [("method", some (encode r.method)), ("path", r.path.json?), ("body", some (encode r.body)),
      ("headers", some (textRecord r.headers)),
      ("extensions", some (.obj [("protocol", encode r.asked.protocol), ("outputFormat", encode r.format), (contextName, context)]))]

/-- An answer. -/
structure Response where
  status : Int
  headers : Record String
  body : String
  deriving DecidableEq, Repr, Inhabited

instance : Encode Response where
  encode r := .obj [("status", encode r.status), ("headers", textRecord r.headers), ("body", encode r.body)]

instance : Decode Response where
  decode? j := do
    return { status := j.fieldD "status" 0, headers := ((j.get? "headers").bind Json.decodeRecord?).getD [],
             body := j.fieldD "body" "" }

namespace Response

def jsonType : String := "application/json"

def plainType : String := "text/plain; charset=utf-8"

def markdownType : String := "text/markdown; charset=utf-8"

/-- The header that says what a body is. -/
def typeHeader (value : String) : Record String := [("content-type", value)]

def ofJson (status : Int) (value : Json) : Response := ⟨status, typeHeader jsonType, value.pretty⟩

def ofText (status : Int) (text : String) (type : Option String := none) : Response :=
  ⟨status, typeHeader (type.getD plainType), text⟩

/-- An answer that tells of an error, with what more there is to say about it. -/
def ofError (status : Int) (message : String) (data : Option Json := none) : Response :=
  ofJson status (.present [("error", some (.str message)), ("data", data)])

/-- Whether the body is said to be JSON. -/
def isJson (r : Response) : Bool := Text.starts ((r.headers.get? "content-type").getD "") jsonType

/-- The body as JSON, when it is said to be JSON and is. -/
def json? (r : Response) : Option Json := if r.isJson then Json.ofText? r.body else none

/-- The message of an error: the field of that name, or the whole body. -/
def errorMessage (r : Response) : String :=
  match r.json?.bind (·.get? "error") with
  | some (.str message) => message
  | _ => r.body

end Response

end QualityGate
