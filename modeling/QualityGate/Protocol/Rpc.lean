import QualityGate.Protocol.Message
import QualityGate.Schema

/-!
# Remote calls as JSON

A call names a method and perhaps parameters, and has an identifier when it wants an answer; the answer is a result or an error with
the same identifier.
-/

namespace QualityGate

/-- A remote call. A call with no identifier wants no answer. -/
structure RpcCall where
  id : Option Json
  method : String
  params : Option Json
  deriving Inhabited

instance : Encode RpcCall where
  encode c := .present [("jsonrpc", some (.str "2.0")), ("id", c.id), ("method", some (.str c.method)), ("params", c.params)]

namespace Rpc

def parseError : Int := -32700
def invalidRequest : Int := -32600
def methodNotFound : Int := -32601
def invalidParams : Int := -32602
def internalError : Int := -32603
def serverError : Int := -32000

/-- Whether a value can identify a call. -/
def isId : Json → Bool
  | .str _ | .null => true
  | .num x => !x.isNan
  | _ => false

/-- The identifier in a value, null when there is none that can be used. -/
def idIn (j : Json) : Json :=
  match j.get? "id" with
  | some id => if isId id then id else .null
  | none => .null

/-- The call that a value describes. -/
def ofJson (j : Json) : Except Failure RpcCall :=
  let method := (j.get? "method").bind Json.str?
  let id := j.get? "id"
  match method with
  | some name =>
    if name = "" ∨ ¬ id.all isId then unusable
    else if j.get? "jsonrpc" == some (.str "2.0") then .ok ⟨id, name, j.get? "params"⟩
    else .error (.call invalidRequest "Unsupported JSON-RPC version" (id.getD .null) none)
  | none => unusable
where
  unusable := .error (.call invalidRequest "Invalid JSON-RPC request shape" (idIn j) none)

/-- The call in a line of text. -/
def ofText (line : String) : Except Failure RpcCall :=
  match Json.ofText? line with
  | some j => ofJson j
  | none => .error (.call parseError "Parse error" .null none)

end Rpc

/-- The answer to a call. -/
inductive RpcReply where
  | result (id value : Json)
  | error (id : Json) (code : Int) (message : String) (data : Option Json)
  deriving Inhabited

instance : Encode RpcReply where
  encode
    | .result id value => .obj [("jsonrpc", .str "2.0"), ("id", id), ("result", value)]
    | .error id code message data =>
      .obj [("jsonrpc", .str "2.0"), ("id", id),
        ("error", .present [("code", some (encode code)), ("message", some (.str message)), ("data", data)])]

end QualityGate
