import QualityGate.Protocol.Address
import QualityGate.Protocol.Message
import QualityGate.Text.Case

/-!
# Requests over HTTP
-/

namespace QualityGate

/-- A request as it arrives: headers may have several values. -/
structure HttpRequest where
  method : String
  url : String
  headers : Record (List String)
  body : String
  remoteAddress : Option String
  deriving DecidableEq, Repr, Inhabited

namespace HttpRequest

/-- A header with one value is as good as a list of one. -/
def headerValues : Json → List String
  | .arr items => items.map fun item => if item == .null then "" else item.plain
  | other => [other.plain]

instance : Decode HttpRequest where
  decode? j := do
    return { method := j.fieldD "method" "", url := j.fieldD "url" "",
             headers := ((j.get? "headers").bind Json.fields?).getD [] |>.map fun (n, v) => (n, headerValues v),
             body := j.fieldD "body" "", remoteAddress := j.fieldD "remoteAddress" none }

/-- Header names in lower case; of headers that only differ in case the last one counts. -/
def plainHeaders (headers : Record String) : Record String :=
  Record.assignAll (headers.map fun (name, value) => (Text.lower name, value))

def readMethod (method : String) : Except Failure RequestMethod :=
  match RequestMethod.ofName? (Text.upper method) with
  | some m => .ok m
  | none => .error (.protocol .decode s!"Unsupported HTTP method: {method}" none)

/-- The format that a request asks for: in its body if the body is an object that says so, else in the query. -/
def readFormat (body : String) (query : Record String) : OutputFormat :=
  let named := (Json.ofText? body).bind (·.get? "format")
  match named with
  | some j => .ofJson (some j)
  | none => .ofJson ((query.get? "format").map .str)

def toRequest (r : HttpRequest) : Except Failure Request := do
  match Address.ofText? r.url with
  | none => throw .invalidAddress
  | some address =>
    return { method := ← readMethod r.method, path := .path address.path, body := r.body,
             headers := plainHeaders (r.headers.map fun (n, vs) => (n, Text.join ", " vs)),
             format := readFormat r.body address.query, asked := .http address.query r.remoteAddress }

end HttpRequest

/-- A response as it was received, with header names in lower case. -/
def Response.received (r : Response) : Response := { r with headers := HttpRequest.plainHeaders r.headers }

end QualityGate
