import QualityGate.Protocol.Message
import QualityGate.Schema
import QualityGate.Text.Case
import QualityGate.World

/-!
# Routing

A router holds the handlers of all requests, by method and path. Handling a request never fails: what a handler raises becomes a
response, and what nobody foresaw is logged too.
-/

namespace QualityGate

/-- What answers a request. -/
abbrev Handler (η : Type) := Request → Action η Response

/-- A place in a router. -/
structure Route (η : Type) where
  method : RequestMethod
  path : String
  description : String
  inputSchema : Option Json := none
  handler : Handler η

/-- Routes in the order of their registration. -/
abbrev Router (η : Type) := List (Route η)

namespace Route

variable {η : Type}

/-- The method and the path as one line. -/
def key (r : Route η) : String := s!"{r.method.name} {r.path}"

instance : Encode (Route η) where
  encode r :=
    .present [("method", some (encode r.method)), ("path", some (encode r.path)), ("description", some (encode r.description)),
      ("inputSchema", r.inputSchema)]

end Route

/-- What a handler has worked out: JSON or text, with a status and, for text, its type. -/
inductive Result where
  | json (value : Json) (status : Option Int := none)
  | text (body : String) (type : Option String := none) (status : Option Int := none)
  deriving Inhabited

namespace Result

def toResponse : Result → Response
  | .json value status => .ofJson (status.getD 200) value
  | .text body type status => .ofText (status.getD 200) body type

end Result

namespace Router

variable {η : Type}

/-- The route of a method and a path; the method may be written in any case. -/
def resolve (router : Router η) (method path : String) : Option (Route η) :=
  let key := Text.upper method ++ " " ++ path
  router.find? fun r => r.key = key

/-- The router with one more route; each method and path has only one. -/
def register (router : Router η) (route : Route η) : Except Failure (Router η) :=
  if router.any fun r => r.key = route.key then .error (.other s!"Route already registered: {route.key}")
  else .ok (router ++ [route])

/-- The response to a failure, and whether it was not foreseen. -/
def ofFailure : Failure → Response × Bool
  | f@(.noHandler ..) => (.ofError 404 f.message, false)
  | .protocol fault message details => (.ofError fault.status message details, false)
  | f@(.configuration _) => (.ofError 400 f.message, false)
  | f@(.lockHeld ..) => (.ofError 409 f.message, false)
  | f => (.ofError 500 f.message, true)

/-- The answer to a request. -/
def handle (router : Router η) (request : Request) : Action η Response := do
  try
    match router.resolve request.method.name request.path.text with
    | some route => route.handler request
    | none => throw (.noHandler request.method.name request.path.text)
  catch failure =>
    let (response, unforeseen) := ofFailure failure
    if unforeseen then
      Action.log .error "handler failed"
        (request.path.json?.toList.map (("path", ·)) ++ [("protocol", encode request.asked.protocol)])
    return response

end Router

namespace Request

/-- The body of a request as JSON; the query of its address when there is no body. -/
def bodyJson (r : Request) : Except Failure Json :=
  if (trim r.body.toList).isEmpty then .ok (textRecord r.asked.query)
  else
    match Json.ofText? r.body with
    | some j => .ok j
    | none => .error (.protocol .json s!"Request body is not valid JSON: {Failure.jsonDetail}" none)

/-- A fault of a body in words. -/
def describeFault (f : Fault) : String :=
  let field := if f.path.isEmpty then "body" else Text.ofPath f.path
  s!"{field}: {f.message}"

/-- The body of a request as a check reads it. -/
def checked {α : Type} (r : Request) (check : Check α) : Except Failure α := do
  let result := check (some (← r.bodyJson))
  match result.accepted? with
  | some a => return a
  | none =>
    let faults := result.faults.map describeFault
    let all := Text.join "; " faults
    throw (.protocol .invalidFormat s!"Invalid request: {all}" (some (.obj [("issues", .strings faults)])))

end Request

/-- A handler that checks the body and answers with what is worked out from it. -/
def checkedHandler {η α : Type} (check : Check α) (answer : α → Request → Action η Result) : Handler η := fun request => do
  let body ← Action.ofExcept (request.checked check)
  return (← answer body request).toResponse

end QualityGate
