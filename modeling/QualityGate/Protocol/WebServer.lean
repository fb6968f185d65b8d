import QualityGate.Protocol.Http
import QualityGate.Protocol.MediaType
import QualityGate.Protocol.ToolServer

/-!
# The web server

What the server answers to a request: the state of health, all analyses under their own paths, and tool calls below `/mcp/`, where the
last step of the path stands for a method that the body does not name. A body is read only when its type is one that the server knows.
-/

namespace QualityGate

/-- A request as the server gets it. -/
structure WebRequest where
  method : String
  url : String
  headers : Record String
  body : String
  deriving DecidableEq, Repr, Inhabited

instance : Decode WebRequest where
  decode? j := do
    return { method := j.fieldD "method" "GET", url := j.fieldD "url" "",
             headers := ((j.get? "headers").bind Json.fields?).getD [] |>.map fun (n, v) => (n, v.plain),
             body := j.fieldD "body" "" }

/-- What the server sends back. -/
structure WebReply where
  status : Int
  contentType : Option String
  body : String
  deriving DecidableEq, Repr, Inhabited

instance : Encode WebReply where
  encode r := .present [("status", some (encode r.status)), ("contentType", r.contentType.map encode), ("body", some (encode r.body))]

namespace WebServer

/-- What a path leads to. -/
inductive Place where
  | health
  | analyses
  | tools (method : String)
  deriving DecidableEq, Repr, Inhabited

/-- The type of JSON that the server itself writes. -/
def jsonType : String := "application/json; charset=utf-8"

/-- The longest last step of a path that names a method. -/
def methodLimit : Nat := 100

/-- The part of a path that says where it leads: what stands before a semicolon. -/
def leading (path : String) : List Char := path.toList.takeWhile (· ≠ ';')

/-- Whether a path is the text of characters throughout. -/
def isReadable (path : List Char) : Bool := Percent.isWhole path && Percent.isText path

/-- Where a path leads. -/
def placeOf? (path : List Char) : Option Place :=
  match (splitWhere (· = '/') path).map fun step => String.ofList (Percent.decode step) with
  | ["", "health"] => some .health
  | "" :: "api" :: "v1" :: _ :: _ => some .analyses
  | ["", "mcp", method] => if methodLimit < units method.toList then none else some (.tools method)
  | _ => none

/-- Whether requests of a method may go to a place. A head is asked for like a whole answer. -/
def allows : Place → String → Bool
  | .health, method => method = "GET" || method = "HEAD"
  | .analyses, method => method = "GET" || method = "HEAD" || method = "POST"
  | .tools _, method => method = "POST"

def jsonReply (status : Int) (j : Json) : WebReply := ⟨status, some jsonType, j.compact⟩

/-- The reply to a request that the server cannot take. -/
def refusal (status : Int) (code : Option String) (name message : String) : WebReply :=
  jsonReply status (.present [("statusCode", some (encode status)), ("code", code.map .str), ("error", some (.str name)),
    ("message", some (.str message))])

/-- The reply to a request whose path is no text; the address is shown as it is. -/
def unreadable (url : String) : WebReply :=
  ⟨400, some Response.jsonType,
    "\x7b\"error\":\"Bad Request\",\"code\":\"FST_ERR_BAD_URL\",\"message\":\"'" ++ url ++
      "' is not a valid url component\",\"statusCode\":400\x7d"⟩

def notFound (method url : String) : WebReply :=
  jsonReply 404 (.obj [("message", .str s!"Route {method}:{url} not found"), ("error", .str "Not Found"),
    ("statusCode", .nat 404)])

/-- The types of bodies that the server reads. -/
def knownTypes : List String := ["application/json", "text/plain"]

/-- The most bytes of a body. -/
def bodyLimit : Nat := 1048576

/-- A request without a body that says nothing of a body's type. -/
def isBare (r : WebRequest) (headers : Record String) : Bool :=
  (headers.get? "content-type").isNone && r.body = "" && (headers.get? "content-length").all (· = "0") &&
    (headers.get? "transfer-encoding").isNone

/-- Whether the server reads bodies of the type that a request gives. -/
def isKnownType (headers : Record String) : Bool :=
  (MediaType.ofText? ((headers.get? "content-type").getD "")).any fun t => knownTypes.any (Text.has t)

/-- What is wrong with the length of a body, if anything: it is too long, or not what the request says. -/
def lengthRefusal? (r : WebRequest) (headers : Record String) : Option WebReply :=
  let size : Number := .ofNat r.body.utf8ByteSize
  let said := ((headers.get? "content-length").map Number.ofText).getD size
  if (Number.ofNat bodyLimit).lt said || (Number.ofNat bodyLimit).lt size then
    some (refusal 413 (some "FST_ERR_CTP_BODY_TOO_LARGE") "Payload Too Large" "Request body is too large")
  else if !said.isNan && said != size then
    some (refusal 400 (some "FST_ERR_CTP_INVALID_CONTENT_LENGTH") "Bad Request"
      "Request body size did not match Content-Length")
  else none

/-- The body of a request, when its type is known and its length is what the request says. -/
def readBody (r : WebRequest) : Except WebReply String :=
  let headers := HttpRequest.plainHeaders r.headers
  if isBare r headers then .ok ""
  else if isKnownType headers then
    match lengthRefusal? r headers with
    | some reply => .error reply
    | none => .ok r.body
  else
    let type := (headers.get? "content-type").getD ""
    let shown := if type = "" then "undefined" else type
    .error (refusal 415 (some "FST_ERR_CTP_INVALID_MEDIA_TYPE") "Unsupported Media Type" s!"Unsupported Media Type: {shown}")

/-- The methods whose requests have bodies. -/
def bodyMethods : List String := ["POST", "PUT", "PATCH", "TRACE", "SEARCH", "PROPFIND", "PROPPATCH", "LOCK"]

/-- The reply to a request whose path leads nowhere. A body of a known type is read all the same. -/
def lost (r : WebRequest) : WebReply :=
  let headers := HttpRequest.plainHeaders r.headers
  let refused := if bodyMethods.contains r.method && isKnownType headers then lengthRefusal? r headers else none
  refused.getD (notFound r.method r.url)

/-- The type that a response is sent with. JSON gets the name of its encoding. -/
def sentType (type : String) : String :=
  if Text.has type "json" ∧ ¬ Text.has type "charset" then type ++ "; charset=utf-8" else type

def ofResponse (r : Response) : WebReply := ⟨r.status, (r.headers.get? "content-type").map sentType, r.body⟩

/-- The message in a body; a body that names no method is about the one in the path. -/
def messageOf? (body method : String) : Option Json :=
  (Json.ofText? (if body = "" then "\x7b\x7d" else body)).map fun j =>
    match j with
    | .obj fields =>
      if (Record.get? fields "method").isSome then .obj fields else .obj (Record.set fields "method" (.str method))
    | other => other

variable {η : Type}

/-- The reply to a request for an analysis. -/
def forward (router : Router η) (r : WebRequest) (body : String) : Action η WebReply := do
  let request : HttpRequest := ⟨r.method, r.url, r.headers.mapValues ([·]), body, none⟩
  match request.toRequest with
  | .ok request => return ofResponse (← router.handle request)
  | .error (.protocol fault message _) =>
    let name := if fault.status = 400 then "Bad Request" else "Internal Server Error"
    return refusal fault.status none name message
  | .error failure => return refusal 500 none "Internal Server Error" failure.message

/-- The reply to a call of a tool. -/
def callTool (router : Router η) (info : ServerInfo) (method body : String) : Action η WebReply := do
  match messageOf? body method with
  | none => return jsonReply 200 (encode (RpcReply.error .null Rpc.parseError "Parse error" none))
  | some message =>
    match ← ToolServer.answer router info message with
    | some reply => return jsonReply 200 (encode reply)
    | none => return ⟨204, none, ""⟩

/-- The reply from a place. -/
def answerAt (router : Router η) (info : ServerInfo) (r : WebRequest) (place : Place) : Action η WebReply := do
  match if r.method = "POST" then readBody r else .ok "" with
  | .error reply => return reply
  | .ok body =>
    let reply ← match place with
      | .health => pure (jsonReply 200 (.obj [("status", .str "ok")]))
      | .analyses => forward router r body
      | .tools name => callTool router info name body
    return if r.method = "HEAD" then { reply with body := "" } else reply

/-- The methods that a request can have. -/
def methods : List String :=
  ["ACL", "BIND", "CHECKOUT", "CONNECT", "COPY", "DELETE", "GET", "HEAD", "LINK", "LOCK", "M-SEARCH", "MERGE", "MKACTIVITY",
   "MKCALENDAR", "MKCOL", "MOVE", "NOTIFY", "OPTIONS", "PATCH", "POST", "PROPFIND", "PROPPATCH", "PURGE", "PUT", "QUERY", "REBIND",
   "REPORT", "SEARCH", "SOURCE", "SUBSCRIBE", "TRACE", "UNBIND", "UNLINK", "UNLOCK", "UNSUBSCRIBE"]

/-- The address that a request is for; one that starts with two slashes names no host. -/
def addressOf? (url : String) : Option Address :=
  Address.ofText? (if Text.starts url "//" then "http://localhost" ++ url else url)

/-- The reply to a request. -/
def answer (router : Router η) (info : ServerInfo) (r : WebRequest) : Action η WebReply := do
  let method := Text.upper r.method
  if !(methods.contains method && (r.method = method || r.method = Text.lower method)) then
    Action.fail (.other "must be equal to one of the allowed values")
  match addressOf? r.url with
  | none => Action.fail .invalidAddress
  | some address =>
    let r := { r with method, url := address.path ++ address.search }
    let path := leading address.path
    if !isReadable path then return unreadable r.url
    match (placeOf? path).filter (allows · r.method) with
    | none => return lost r
    | some place => answerAt router info r place

end WebServer

end QualityGate
