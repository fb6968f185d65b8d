import QualityGate.Protocol.Router
import QualityGate.Protocol.Rpc
import QualityGate.Protocol.Invocation
import QualityGate.Text.Collation

/-!
# Analyses as tools

Every analysis can be called as a tool: `analyze_dead_code` is the request `POST /api/v1/analyze/dead-code`, and `list_templates` is
`GET /api/v1/templates`. A server of tools answers remote calls with the responses of a router.
-/

namespace QualityGate

/-- The method and the path that a tool stands for. -/
structure ToolRoute where
  method : RequestMethod
  path : Place
  deriving DecidableEq, Repr, Inhabited

instance : Encode ToolRoute := ⟨fun r => .present [("method", some (encode r.method)), ("path", r.path.json?)]⟩

namespace ToolRoute

/-- What the name of an analysis tool starts with. -/
def lead : String := "analyze_"

def listTool : String := "list_templates"

/-- The route of a tool. -/
def ofName? (name : String) : Option ToolRoute :=
  if Text.starts name lead ∧ name ≠ lead then
    let kind := String.ofList (name.toList.drop lead.length)
    some ⟨.post, .path (Invocation.analyzePath ++ Text.swapChar kind '_' '-')⟩
  else if name = listTool then some ⟨.get, .path Invocation.templatesPath⟩
  else (Inherited.ofName? name).map fun answer => ⟨.get, .inherited answer⟩

/-- The tool of a route. -/
def toName? (r : ToolRoute) : Option String :=
  let path := r.path.text
  if r.method = .post ∧ Text.starts path Invocation.analyzePath then
    let kind := String.ofList (path.toList.drop Invocation.analyzePath.length)
    some (lead ++ Text.swapChar kind '-' '_')
  else if r.method = .get ∧ path = Invocation.templatesPath then some listTool
  else none

end ToolRoute

/-- A tool as clients see it. -/
structure ToolInfo where
  name : String
  description : String
  inputSchema : Json
  deriving Inhabited

instance : Encode ToolInfo where
  encode t := .obj [("name", .str t.name), ("description", .str t.description), ("inputSchema", t.inputSchema)]

/-- A server's name and version. -/
structure ServerInfo where
  name : String
  version : String
  deriving DecidableEq, Repr, Inhabited

instance : Encode ServerInfo := ⟨fun s => .obj [("name", .str s.name), ("version", .str s.version)]⟩

/-- What a tool answers: a text, which may tell of an error. -/
structure ToolAnswer where
  text : String
  isError : Bool
  deriving DecidableEq, Repr, Inhabited

/-- A text as the content of an answer. -/
def textContent (text : String) : Json := .arr [.obj [("type", .str "text"), ("text", .str text)]]

instance : Encode ToolAnswer where
  encode a :=
    .present [("content", some (textContent a.text)), ("isError", if a.isError then some (.bool true) else none)]

namespace RpcCall

/-- The request that a call makes. -/
def toRequest (c : RpcCall) : Except Failure Request :=
  let id := c.id.getD .null
  match ToolRoute.ofName? c.method with
  | none => .error (.call Rpc.methodNotFound s!"Method not found: {c.method}" id none)
  | some route =>
    match c.params with
    | none | some .null => .ok (request route id (.obj []))
    | some (.obj fields) => .ok (request route id (.obj fields))
    | _ => .error (.call Rpc.invalidParams "params must be an object" id none)
where
  request (route : ToolRoute) (id params : Json) : Request :=
    { method := route.method, path := route.path, body := params.compact,
      headers := Response.typeHeader Response.jsonType, format := .ofJson (params.get? "format"),
      asked := .mcp id c.method }

end RpcCall

namespace Response

/-- The error code of a status. -/
def rpcCode (status : Number) : Int :=
  if status.same 400 then Rpc.invalidParams
  else if status.same 404 then Rpc.methodNotFound
  else if status.same 500 then Rpc.internalError
  else Rpc.serverError

/-- The reply to a call: a JSON body is the result itself, a text its content. -/
def toReply (r : Response) (id : Json) : Except Failure RpcReply :=
  if r.status < 400 then
    if r.isJson then
      match Json.ofText? r.body with
      | some j => .ok (.result id j)
      | none => .error .malformedJson
    else .ok (.result id (.obj [("content", textContent r.body)]))
  else .ok (.error id (rpcCode (.ofInt r.status)) r.errorMessage (r.json?.bind (·.get? "data")))

end Response

namespace ToolServer

def protocolVersion : String := "2024-11-05"

/-- The schema of a tool that takes nothing. -/
def noInput : Json := .obj [("type", .str "object"), ("properties", .obj [])]

variable {η : Type}

/-- The tools of a router, by name. -/
def tools (router : Router η) : List ToolInfo :=
  let found := router.filterMap fun route =>
    (ToolRoute.toName? ⟨route.method, .path route.path⟩).map fun name =>
      (⟨name, route.description, route.inputSchema.getD noInput⟩ : ToolInfo)
  sortBy (fun a b => Collation.order a.name b.name) found

/-- Whether a tool's name leads to a route. -/
def knows (router : Router η) (name : String) : Bool :=
  ((ToolRoute.ofName? name).bind fun r => router.resolve r.method.name r.path.text).isSome

/-- Calls a tool. -/
def call (router : Router η) (name : String) (arguments : Json) : Action η ToolAnswer := do
  if !knows router name then return ⟨s!"Unknown tool: {name}", true⟩
  let request ← Action.ofExcept (RpcCall.toRequest ⟨some .null, name, some arguments⟩)
  let response ← router.handle request
  return if 400 ≤ response.status then ⟨response.errorMessage, true⟩ else ⟨response.body, false⟩

/-- The name and the arguments of a call of a tool. -/
def readCall (params : Option Json) : Option (String × Json) :=
  let check : Check (String × Option (Record Json)) := Check.object fun p =>
    Prod.mk <$> Check.field p "name" (Check.nonempty Check.text)
      <*> Check.field p "arguments" (Check.optional (Check.record Check.json))
  (check params).accepted?.map fun (name, fields) => (name, .obj (fields.getD []))

/-- The reply to a call, whether or not the call wants one. -/
def reply (router : Router η) (info : ServerInfo) (c : RpcCall) : Action η RpcReply := do
  let id := c.id.getD .null
  if c.method = "initialize" then
    return .result id (.obj [("protocolVersion", .str protocolVersion), ("serverInfo", encode info),
      ("capabilities", .obj [("tools", .obj [])])])
  else if c.method = "tools/list" then return .result id (.obj [("tools", encode (tools router))])
  else if c.method = "tools/call" then
    match readCall c.params with
    | some (name, arguments) => return .result id (encode (← call router name arguments))
    | none => return .error id Rpc.invalidParams "tools/call needs a tool name" none
  else
    try
      let request ← Action.ofExcept c.toRequest
      let response ← router.handle request
      Action.ofExcept (response.toReply id)
    catch
      | .call code message _ data => return .error id code message data
      | failure => throw failure

def isNotification (method : String) : Bool := Text.starts method "notifications/"

/-- The answer to a call; none when it wants none. -/
def dispatch (router : Router η) (info : ServerInfo) (c : RpcCall) : Action η (Option RpcReply) := do
  if isNotification c.method then return none
  let answer ← reply router info c
  return if c.id.isNone then none else some answer

/-- The answer to a message. -/
def answer (router : Router η) (info : ServerInfo) (message : Json) : Action η (Option RpcReply) := do
  match Rpc.ofJson message with
  | .error (.call code text id data) => return some (.error id code text data)
  | .error failure => throw failure
  | .ok c => dispatch router info c

/-! ## Calls in a stream of lines -/

/-- A call's result, or its error, as a line is answered. -/
def lineReply (id : Json) : Except (Int × String) Json → Json
  | .ok result => .obj [("result", result), ("jsonrpc", .str "2.0"), ("id", id)]
  | .error (code, message) =>
    .obj [("jsonrpc", .str "2.0"), ("id", id), ("error", .obj [("code", encode code), ("message", .str message)])]

/-- The answer to a line; none when it is no call, or one that wants no answer. -/
def answerLine (router : Router η) (line : String) : Action η (Option Json) := do
  match Rpc.ofText line with
  | .error _ => return none
  | .ok c =>
    match c.id with
    | none => return none
    | some id =>
      if c.method = "tools/list" then return some (lineReply id (.ok (.obj [("tools", encode (tools router))])))
      else if c.method = "ping" then return some (lineReply id (.ok (.obj [])))
      else if c.method = "tools/call" then
        match readCall c.params with
        | some (name, arguments) => return some (lineReply id (.ok (encode (← call router name arguments))))
        | none => return some (lineReply id (.error (Rpc.invalidParams, "tools/call needs a tool name")))
      else return some (lineReply id (.error (Rpc.methodNotFound, "Method not found")))

end ToolServer

end QualityGate
