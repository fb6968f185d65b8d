import QualityGate.Proofs.Protocols

/-!
# Answers to remote calls

A message is a well-formed request (`Rpc.Asks`) or it is refused; a request is answered by the server itself, refused before any
handler is run, or handled and answered with what comes of that. `Answered` says of one message what its answer has to be. All
messages are answered so exactly if the handlers that calls reach put JSON into every body that is taken for JSON
(`answered_iff_answersJson`). The test for that looks at the first letters of the label alone.
-/

namespace QualityGate

variable {η : Type}

/-! ## Messages -/

namespace Json

theorem beq_str_iff (j : Json) (s : String) : (j == .str s) = true ↔ j = .str s := by
  cases j <;> simp [BEq.beq, beq]

end Json

namespace Rpc

/-- What can identify a call: a text, a number or null. -/
def Identifies : Json → Prop
  | .str _ | .null => True
  | .num x => x.isNan = false
  | _ => False

/-- A message's own identifier: what its field `id` holds if that can identify a call, else null. -/
def ownId (message : Json) : Json :=
  match message.get? "id" with
  | some (.str s) => .str s
  | some (.num x) => if x.isNan then .null else .num x
  | _ => .null

/-- A message is a well-formed request for a method. -/
structure Asks (message : Json) (method : String) : Prop where
  version : message.get? "jsonrpc" = some (.str "2.0")
  names : message.get? "method" = some (.str method)
  nonempty : method ≠ ""
  id : ∀ id, message.get? "id" = some id → Identifies id

/-- A message asks for one method. -/
theorem Asks.unique {message : Json} {method other : String} (h : Asks message method) (hother : Asks message other) :
    other = method :=
  Json.str.inj (Option.some.inj (hother.names.symm.trans h.names))

theorem isId_iff (j : Json) : isId j = true ↔ Identifies j := by
  cases j <;> simp [isId, Identifies]

/-- The identifier that a message is answered with is its own. -/
theorem idIn_eq (message : Json) : idIn message = ownId message := by
  unfold idIn ownId
  cases message.get? "id" with
  | none => rfl
  | some id =>
    cases id with
    | num x => cases hnan : x.isNan <;> simp [isId, hnan]
    | _ => rfl

/-- A message may do without an identifier; else it has one that can identify a call. -/
theorem all_isId_iff (id : Option Json) : id.all isId = true ↔ ∀ j, id = some j → Identifies j := by
  cases id <;> simp [isId_iff]

/-- The identifier of a message that has one which can be used, or of one that has none. -/
theorem getD_id_eq {message : Json} (h : ∀ id, message.get? "id" = some id → Identifies id) :
    (message.get? "id").getD .null = ownId message := by
  rw [← idIn_eq]
  unfold idIn
  split
  · rename_i id hid
    rw [hid, if_pos ((isId_iff id).mpr (h id hid))]
    rfl
  · rename_i hid
    rw [hid]
    rfl

/-- A well-formed request is read as a call. -/
theorem ofJson_of_asks {message : Json} {method : String} (h : Asks message method) :
    ofJson message = .ok ⟨message.get? "id", method, message.get? "params"⟩ := by
  have hid := (all_isId_iff _).mpr h.id
  have hversion : (message.get? "jsonrpc" == some (.str "2.0")) = true := by
    rw [h.version, Option.some_beq_some, Json.beq_str_iff]
  unfold ofJson
  simp [h.names, Json.str?, h.nonempty, hid, hversion]

/-- Any other message is an invalid request, with its own identifier. -/
theorem ofJson_of_not_asks {message : Json} (h : ∀ method, ¬Asks message method) :
    ∃ text, ofJson message = .error (.call invalidRequest text (ownId message) none) := by
  unfold ofJson ofJson.unusable
  dsimp only
  rw [idIn_eq]
  split
  · rename_i name hmethod
    by_cases hshape : name = "" ∨ ¬(message.get? "id").all isId = true
    · exact ⟨_, if_pos hshape⟩
    · rw [if_neg hshape]
      rw [not_or, Decidable.not_not, all_isId_iff] at hshape
      rw [Option.bind_eq_some_iff] at hmethod
      obtain ⟨value, hvalue, hname⟩ := hmethod
      obtain ⟨s, rfl⟩ : ∃ s, value = .str s := by
        cases value <;> simp [Json.str?] at hname ⊢
      obtain rfl : s = name := Option.some.inj hname
      split
      · rename_i hversion
        refine absurd ⟨?_, hvalue, hshape.1, hshape.2⟩ (h s)
        cases hjsonrpc : message.get? "jsonrpc" with
        | none => simp [hjsonrpc] at hversion
        | some version =>
          rw [hjsonrpc, Option.some_beq_some, Json.beq_str_iff] at hversion
          rw [hversion]
      · exact ⟨_, by rw [getD_id_eq hshape.2]⟩
  · exact ⟨_, rfl⟩

/-- A message that is read as a call is a well-formed request for it. -/
theorem asks_of_ofJson {message : Json} {c : RpcCall} (h : ofJson message = .ok c) :
    Asks message c.method ∧ c = ⟨message.get? "id", c.method, message.get? "params"⟩ := by
  by_cases hasks : ∃ method, Asks message method
  · obtain ⟨method, hasks⟩ := hasks
    rw [ofJson_of_asks hasks] at h
    obtain rfl := Except.ok.inj h
    exact ⟨hasks, rfl⟩
  · obtain ⟨text, herror⟩ := ofJson_of_not_asks fun method hm => hasks ⟨method, hm⟩
    rw [herror] at h
    cases h

end Rpc

/-! ## Routers -/

@[simp] theorem Response.status_ofError (status : Int) (message : String) (data : Option Json) :
    (ofError status message data).status = status := rfl

namespace Router

/-- The router with other handlers in the same places. -/
def withHandlers (router : Router η) (handlers : Route η → Handler η) : Router η :=
  router.map fun route => { route with handler := handlers route }

/-- Other handlers leave it to the router which route a path leads to. -/
theorem resolve_withHandlers (router : Router η) (handlers : Route η → Handler η) (method path : String) :
    (router.withHandlers handlers).resolve method path =
      (router.resolve method path).map fun route => { route with handler := handlers route } :=
  List.find?_map

/-- A request that leads to no route is answered with 404, and nothing is done. -/
theorem run_handle_of_unresolved {router : Router η} {request : Request}
    (h : router.resolve request.method.name request.path.text = none) (w : World η) :
    (router.handle request).run w =
      (.ok (.ofError 404 (Failure.noHandler request.method.name request.path.text).message), w) := by
  unfold handle
  rw [h]
  rfl

/-- Every failure has the status of an error. -/
theorem le_status_ofFailure (failure : Failure) : 400 ≤ (ofFailure failure).1.status := by
  unfold ofFailure
  split
  case h_2 fault message details =>
    have hfault : 400 ≤ fault.status := by
      unfold ProtocolFault.status
      split <;> decide
    exact Int.ofNat_le.mpr hfault
  all_goals simp

/-- A response that tells of no error is that of a handler. -/
theorem exists_of_run_handle {router : Router η} {request : Request} {response : Response} {w v : World η}
    (h : (router.handle request).run w = (.ok response, v)) (hstatus : response.status < 400) :
    ∃ route, router.resolve request.method.name request.path.text = some route ∧
      ((route.handler request).run w).1 = .ok response := by
  cases hroute : router.resolve request.method.name request.path.text with
  | none =>
    rw [run_handle_of_unresolved hroute] at h
    obtain rfl := Except.ok.inj (Prod.mk.inj h).1
    simp at hstatus
  | some route =>
    have hresult := run_handle hroute w
    rw [h] at hresult
    refine ⟨route, rfl, ?_⟩
    cases hhandler : ((route.handler request).run w).1 with
    | ok own =>
      rw [hhandler] at hresult
      exact hresult.symm
    | error failure =>
      rw [hhandler] at hresult
      obtain rfl := Except.ok.inj hresult
      exact absurd hstatus (Int.not_lt.mpr (le_status_ofFailure failure))

/-- Handling a request ends with a response. -/
theorem exists_run_handle (router : Router η) (request : Request) (w : World η) :
    ∃ response v, (router.handle request).run w = (.ok response, v) := by
  cases h : router.resolve request.method.name request.path.text with
  | none => exact ⟨_, _, run_handle_of_unresolved h w⟩
  | some route => exact ⟨_, _, Prod.ext (run_handle h w) rfl⟩

end Router

/-! ## Replies -/

namespace RpcReply

/-- The identifier of a reply. -/
def id : RpcReply → Json
  | result id _ => id
  | error id .. => id

end RpcReply

namespace Response

/-- A reply that is made of a response has the identifier that it is made for. -/
theorem id_of_toReply {response : Response} {id : Json} {r : RpcReply} (h : response.toReply id = .ok r) : r.id = id := by
  unfold toReply at h
  split at h
  · split at h
    · split at h
      · obtain rfl := Except.ok.inj h
        rfl
      · cases h
    · obtain rfl := Except.ok.inj h
      rfl
  · obtain rfl := Except.ok.inj h
    rfl

/-- A response has no reply only if its body is taken for JSON and is none. -/
theorem toReply_cases (response : Response) (id : Json) :
    (∃ r, response.toReply id = .ok r) ∨ response.toReply id = .error .malformedJson ∧
      response.status < 400 ∧ response.isJson = true ∧ Json.ofText? response.body = none := by
  unfold toReply
  by_cases hstatus : response.status < 400
  · by_cases hjson : response.isJson = true
    · rw [if_pos hstatus, if_pos hjson]
      cases hbody : Json.ofText? response.body with
      | none => exact .inr ⟨rfl, hstatus, hjson, rfl⟩
      | some value => exact .inl ⟨_, rfl⟩
    · exact .inl ⟨_, by rw [if_pos hstatus, if_neg hjson]⟩
  · exact .inl ⟨_, if_neg hstatus⟩

/-- The reply to a response that there is no handler is the error of an unknown method. -/
theorem toReply_notFound (message : String) (id : Json) :
    ∃ text data, (ofError 404 message).toReply id = .ok (.error id Rpc.methodNotFound text data) := by
  have hcode : rpcCode (.ofInt 404) = Rpc.methodNotFound := by decide +kernel
  have hreply : (ofError 404 message).toReply id = .ok (.error id (rpcCode (.ofInt 404)) (ofError 404 message).errorMessage
      ((ofError 404 message).json?.bind (·.get? "data"))) := if_neg (show ¬(404 : Int) < 400 by decide)
  rw [hcode] at hreply
  exact ⟨_, _, hreply⟩

end Response

namespace RpcCall

/-- A call makes a request, or it is refused: its method is no tool's, or its parameters are no object. -/
theorem toRequest_cases (c : RpcCall) :
    (∃ request, c.toRequest = .ok request) ∨
      ∃ code text data, c.toRequest = .error (.call code text (c.id.getD .null) data) ∧
        (code = Rpc.methodNotFound ∨ code = Rpc.invalidParams) := by
  unfold toRequest
  dsimp only
  split
  · exact .inr ⟨_, _, _, rfl, .inl rfl⟩
  · split
    · exact .inl ⟨_, rfl⟩
    · exact .inl ⟨_, rfl⟩
    · exact .inl ⟨_, rfl⟩
    · exact .inr ⟨_, _, _, rfl, .inr rfl⟩

end RpcCall

namespace ToolServer

/-- The methods that a server answers itself. -/
def ownMethods : List String := ["initialize", "tools/list", "tools/call"]

section Replies

variable (router : Router η) (info : ServerInfo) {c : RpcCall}

/-- The call of a tool with an object of arguments ends with an answer. -/
theorem exists_run_call (name : String) (fields : Record Json) (w : World η) :
    ∃ result v, (call router name (.obj fields)).run w = (.ok result, v) := by
  unfold call
  by_cases hknows : knows router name = true
  · obtain ⟨route, hroute⟩ : ∃ route, ToolRoute.ofName? name = some route := by
      unfold knows at hknows
      cases hname : ToolRoute.ofName? name with
      | none => simp [hname] at hknows
      | some route => exact ⟨route, rfl⟩
    obtain ⟨request, hrequest⟩ : ∃ request, RpcCall.toRequest ⟨some .null, name, some (.obj fields)⟩ = .ok request := by
      unfold RpcCall.toRequest
      dsimp only
      rw [hroute]
      exact ⟨_, rfl⟩
    obtain ⟨response, v, hresponse⟩ := router.exists_run_handle request w
    have hmade : (Action.ofExcept (.ok request) : Action η Request) = pure request := rfl
    rw [if_neg (by simp [hknows]), hrequest, hmade, pure_bind, Action.run_bind, hresponse]
    exact ⟨_, v, rfl⟩
  · exact ⟨_, w, by rw [if_pos (by simpa using hknows)]; rfl⟩

/-- A tool is called with an object of arguments. -/
theorem exists_of_readCall {params : Option Json} {name : String} {arguments : Json}
    (h : readCall params = some (name, arguments)) : ∃ fields, arguments = .obj fields := by
  unfold readCall at h
  dsimp only at h
  rw [Option.map_eq_some_iff] at h
  obtain ⟨⟨name', fields⟩, -, h⟩ := h
  exact ⟨_, (Prod.mk.inj h).2.symm⟩

/-- The server's own methods are answered, with the identifier of the call or null. -/
theorem run_reply_own (h : c.method ∈ ownMethods) (w : World η) :
    ∃ r v, (reply router info c).run w = (.ok r, v) ∧ r.id = c.id.getD .null := by
  unfold reply
  dsimp only
  by_cases hinitialize : c.method = "initialize"
  · rw [if_pos hinitialize]
    exact ⟨_, w, rfl, rfl⟩
  rw [if_neg hinitialize]
  by_cases hlist : c.method = "tools/list"
  · rw [if_pos hlist]
    exact ⟨_, w, rfl, rfl⟩
  have hcall : c.method = "tools/call" := by
    simp only [ownMethods, List.mem_cons, List.not_mem_nil, or_false] at h
    exact (h.resolve_left hinitialize).resolve_left hlist
  rw [if_neg hlist, if_pos hcall]
  cases hread : readCall c.params with
  | none => exact ⟨_, w, rfl, rfl⟩
  | some found =>
    obtain ⟨name, arguments⟩ := found
    obtain ⟨fields, rfl⟩ := exists_of_readCall hread
    obtain ⟨result, v, hresult⟩ := exists_run_call router name fields w
    dsimp only
    exact ⟨.result (c.id.getD .null) (encode result), v, by rw [Action.run_bind, hresult]; rfl, rfl⟩

/-- A call that is no request for a route is refused with its code, and nothing is done. -/
theorem run_reply_refused (h : c.method ∉ ownMethods) {code : Int} {text : String} {id : Json} {data : Option Json}
    (hrefused : c.toRequest = .error (.call code text id data)) (w : World η) :
    (reply router info c).run w = (.ok (.error (c.id.getD .null) code text data), w) := by
  simp only [ownMethods, List.mem_cons, List.not_mem_nil, or_false, not_or] at h
  unfold reply
  simp only [h, hrefused, if_false]
  rfl

/-- A call that is a request for a route is answered with the response of its handler. -/
theorem run_reply_handled (h : c.method ∉ ownMethods) {request : Request} (hrequest : c.toRequest = .ok request)
    {response : Response} {w v : World η} (hresponse : (router.handle request).run w = (.ok response, v)) :
    (reply router info c).run w = (response.toReply (c.id.getD .null), v) := by
  simp only [ownMethods, List.mem_cons, List.not_mem_nil, or_false, not_or] at h
  have hrun : router.handle request w = (.ok response, v) := hresponse
  have hpure : (StateT.pure (Except.ok request : Except Failure Request) : StateM (World η) _) w = (.ok request, w) := rfl
  unfold reply
  simp only [h, hrequest, if_false]
  simp only [Action.run, ExceptT.run, bind, ExceptT.bind, ExceptT.bindCont, ExceptT.mk, tryCatch, tryCatchThe,
    MonadExceptOf.tryCatch, ExceptT.tryCatch, StateT.bind, Action.ofExcept, pure, ExceptT.pure, hpure, hrun]
  rcases response.toReply_cases (c.id.getD .null) with ⟨r, hr⟩ | ⟨hr, -⟩
  · rw [hr]
    rfl
  · rw [hr]
    rfl

end Replies

/-! ## Answers to messages -/

/-- A message is refused with a code, whatever the handlers are, and nothing changes. -/
def Refuses (router : Router η) (info : ServerInfo) (message : Json) (w : World η) (code : Int) : Prop :=
  ∃ text data, ∀ handlers, (answer (router.withHandlers handlers) info message).run w =
    (.ok (some (.error (Rpc.ownId message) code text data)), w)

/-- What has to be refused without any handler: a message that is no well-formed request, and a request with an identifier for a
method that leads to no route or for an analysis whose parameters are no object. -/
structure RefusesUnhandled (router : Router η) (info : ServerInfo) (message : Json) (w : World η) : Prop where
  malformed : (∀ method, ¬Rpc.Asks message method) → Refuses router info message w (-32600)
  unknown : ∀ method, Rpc.Asks message method → message.get? "id" ≠ none → isNotification method = false → method ∉ ownMethods →
    knows router method = false → Refuses router info message w (-32601) ∨ Refuses router info message w (-32602)
  misplaced : ∀ method params, Rpc.Asks message method → message.get? "id" ≠ none → Text.starts method "analyze_" = true →
    method ≠ "analyze_" → message.get? "params" = some params → params ≠ .null → params.fields? = none →
    Refuses router info message w (-32602)

/-- A message has the answer that it must have: one reply with the message's identifier, or none where none is wanted. -/
structure Answered (router : Router η) (info : ServerInfo) (message : Json) (w : World η) : Prop where
  ends : ∃ answered, ((answer router info message).run w).1 = .ok answered
  silent : ((answer router info message).run w).1 = .ok none ↔
    ∃ method, Rpc.Asks message method ∧ (message.get? "id" = none ∨ isNotification method = true)
  own : ∀ r, ((answer router info message).run w).1 = .ok (some r) → r.id = Rpc.ownId message
  refuses : RefusesUnhandled router info message w

/-- The handlers that calls reach put JSON into every body that is taken for JSON. -/
def AnswersJson (router : Router η) : Prop :=
  ∀ message c request route w response, Rpc.ofJson message = .ok c → c.toRequest = .ok request →
    router.resolve request.method.name request.path.text = some route → ((route.handler request).run w).1 = .ok response →
    response.status < 400 → response.isJson = true → (Json.ofText? response.body).isSome = true

/-- No tool has the name of a method that the server answers itself. -/
theorem ofName?_of_own {name : String} (h : name ∈ ownMethods) : ToolRoute.ofName? name = none := by
  revert name
  decide +kernel

/-- No tool has the name of a notification. -/
theorem ofName?_of_notification {name : String} (h : isNotification name = true) : ToolRoute.ofName? name = none := by
  have hne : ∀ other, isNotification other = false → name ≠ other := by
    rintro other hother rfl
    rw [h] at hother
    cases hother
  have hanalyze : Text.starts name ToolRoute.lead = false := by
    obtain ⟨rest, hrest⟩ := List.isPrefixOf_iff_prefix.mp h
    rw [Text.starts, ← hrest]
    rfl
  have hinherited : Inherited.ofName? name = none := by
    have hbase := hne Inherited.baseName (by decide +kernel)
    have hconstructor := hne "constructor" (by decide +kernel)
    have hfunctions : ∀ other ∈ Inherited.functionNames, isNotification other = false := by decide +kernel
    have hfunction : name ∉ Inherited.functionNames := fun hmem => hne name (hfunctions name hmem) rfl
    simp [Inherited.ofName?, hbase, hconstructor, hfunction]
  simp [ToolRoute.ofName?, hanalyze, hne ToolRoute.listTool (by decide +kernel), hinherited]

/-- Every name of an analysis is that of a route. -/
theorem exists_ofName?_of_analyzer {name : String} (hstarts : Text.starts name "analyze_" = true) (hne : name ≠ "analyze_") :
    ∃ route, ToolRoute.ofName? name = some route := by
  unfold ToolRoute.ofName? ToolRoute.lead
  rw [if_pos ⟨hstarts, hne⟩]
  exact ⟨_, rfl⟩

/-- A call that makes a request is for a tool, which is neither a notification nor answered by the server itself. -/
theorem tool_of_toRequest {c : RpcCall} {request : Request} (h : c.toRequest = .ok request) :
    (∃ route, ToolRoute.ofName? c.method = some route ∧ request.method = route.method ∧ request.path = route.path) ∧
      c.method ∉ ownMethods ∧ isNotification c.method = false := by
  have hroute : ∃ route, ToolRoute.ofName? c.method = some route ∧ request.method = route.method ∧ request.path = route.path := by
    unfold RpcCall.toRequest at h
    dsimp only at h
    split at h
    · cases h
    · rename_i route hname
      refine ⟨route, hname, ?_⟩
      split at h
      all_goals first
        | (obtain rfl := Except.ok.inj h; exact ⟨rfl, rfl⟩)
        | cases h
  obtain ⟨route, hname, hplace⟩ := hroute
  refine ⟨⟨route, hname, hplace⟩, fun hown => ?_, ?_⟩
  · rw [ofName?_of_own hown] at hname
    cases hname
  · by_contra hnotification
    rw [ofName?_of_notification (by simpa using hnotification)] at hname
    cases hname

section Answers

variable {router : Router η} {info : ServerInfo} {message : Json} {method : String}

/-- A message that is no request is refused as invalid, whatever the router has. -/
theorem run_answer_of_not_asks (h : ∀ method, ¬Rpc.Asks message method) : ∃ text, ∀ (router : Router η) info w,
    (answer router info message).run w = (.ok (some (.error (Rpc.ownId message) Rpc.invalidRequest text none)), w) := by
  obtain ⟨text, htext⟩ := Rpc.ofJson_of_not_asks h
  refine ⟨text, fun router info w => ?_⟩
  unfold answer
  rw [htext]
  rfl

/-- A notification is not answered, and does nothing. -/
theorem run_answer_notification (router : Router η) (info : ServerInfo) (h : Rpc.Asks message method)
    (hnotification : isNotification method = true) (w : World η) : (answer router info message).run w = (.ok none, w) := by
  unfold answer
  rw [Rpc.ofJson_of_asks h]
  dsimp only
  unfold dispatch
  rw [if_pos hnotification]
  rfl

/-- The answer to a request is the reply to its call, unless it has no identifier. -/
theorem run_answer_of_asks (h : Rpc.Asks message method) (hnotification : isNotification method = false) (w : World η) :
    (answer router info message).run w =
      match (reply router info ⟨message.get? "id", method, message.get? "params"⟩).run w with
      | (.ok r, v) => (.ok (if (message.get? "id").isNone then none else some r), v)
      | (.error failure, v) => (.error failure, v) := by
  unfold answer
  rw [Rpc.ofJson_of_asks h]
  dsimp only
  unfold dispatch
  rw [if_neg (by simp [hnotification]), Action.run_bind]
  rcases (reply router info ⟨message.get? "id", method, message.get? "params"⟩).run w with ⟨result, v⟩
  cases result <;> rfl

/-- A request with an identifier is refused where its call makes no request. -/
theorem refuses_of_toRequest (h : Rpc.Asks message method) (hid : message.get? "id" ≠ none)
    (hnotification : isNotification method = false) (hown : method ∉ ownMethods) {code : Int} {text : String} {id : Json}
    {data : Option Json}
    (hrefused : RpcCall.toRequest ⟨message.get? "id", method, message.get? "params"⟩ = .error (.call code text id data))
    (w : World η) : Refuses router info message w code := by
  refine ⟨text, data, fun handlers => ?_⟩
  rw [run_answer_of_asks h hnotification, run_reply_refused _ info hown hrefused]
  dsimp only
  rw [if_neg (by simpa using hid), Rpc.getD_id_eq h.id]

/-- A request with an identifier that leads to no route is refused as one for an unknown method. -/
theorem refuses_of_unresolved (h : Rpc.Asks message method) (hid : message.get? "id" ≠ none)
    {request : Request} (hrequest : RpcCall.toRequest ⟨message.get? "id", method, message.get? "params"⟩ = .ok request)
    (hresolve : router.resolve request.method.name request.path.text = none) (w : World η) :
    Refuses router info message w Rpc.methodNotFound := by
  obtain ⟨-, hown, hnotification⟩ := tool_of_toRequest hrequest
  obtain ⟨text, data, hreply⟩ :=
    Response.toReply_notFound (Failure.noHandler request.method.name request.path.text).message (Rpc.ownId message)
  refine ⟨text, data, fun handlers => ?_⟩
  have hunresolved : (router.withHandlers handlers).resolve request.method.name request.path.text = none := by
    rw [Router.resolve_withHandlers, hresolve]
    rfl
  have hresponse := Router.run_handle_of_unresolved hunresolved w
  rw [run_answer_of_asks h hnotification, run_reply_handled _ info hown hrequest hresponse]
  dsimp only
  rw [Rpc.getD_id_eq h.id, hreply]
  dsimp only
  rw [if_neg (by simpa using hid)]

/-- The reply to any call that is no notification has the identifier of the call, if the bodies that are taken for JSON are JSON. -/
theorem exists_run_reply (hjson : AnswersJson router) (h : Rpc.Asks message method) (w : World η) :
    ∃ r v, (reply router info ⟨message.get? "id", method, message.get? "params"⟩).run w = (.ok r, v) ∧ r.id = Rpc.ownId message := by
  rw [← Rpc.getD_id_eq h.id]
  by_cases hown : method ∈ ownMethods
  · exact run_reply_own router info hown w
  rcases RpcCall.toRequest_cases ⟨message.get? "id", method, message.get? "params"⟩ with
    ⟨request, hrequest⟩ | ⟨code, text, data, hrefused, -⟩
  · obtain ⟨response, v, hresponse⟩ := router.exists_run_handle request w
    rw [run_reply_handled router info hown hrequest hresponse]
    rcases response.toReply_cases ((message.get? "id").getD .null) with ⟨r, hr⟩ | ⟨-, hstatus, hlabel, hbody⟩
    · exact ⟨r, v, by rw [hr], Response.id_of_toReply hr⟩
    · obtain ⟨route, hroute, hhandler⟩ := Router.exists_of_run_handle hresponse hstatus
      have hsome := hjson message _ request route w response (Rpc.ofJson_of_asks h) hrequest hroute hhandler hstatus hlabel
      rw [hbody] at hsome
      cases hsome
  · exact ⟨_, w, run_reply_refused router info hown hrefused w, rfl⟩

/-- A body that is taken for JSON and is none makes the answer fail. -/
theorem run_answer_of_malformed {c : RpcCall} {request : Request} {route : Route η} {response : Response} {w : World η}
    (hread : Rpc.ofJson message = .ok c) (hrequest : c.toRequest = .ok request)
    (hroute : router.resolve request.method.name request.path.text = some route)
    (hhandler : ((route.handler request).run w).1 = .ok response) (hstatus : response.status < 400)
    (hlabel : response.isJson = true) (hbody : Json.ofText? response.body = none) :
    ((answer router info message).run w).1 = .error .malformedJson := by
  obtain ⟨hasks, hc⟩ := Rpc.asks_of_ofJson hread
  obtain ⟨-, hown, hnotification⟩ := tool_of_toRequest hrequest
  have hresponse : (router.handle request).run w = (.ok response, ((router.handle request).run w).2) := by
    refine Prod.ext ?_ rfl
    rw [Router.run_handle hroute, hhandler]
    rfl
  rw [run_answer_of_asks hasks hnotification, ← hc, run_reply_handled router info hown hrequest hresponse]
  simp [Response.toReply, hstatus, hlabel, hbody]

/-- A method that leads to no route is refused, as unknown or for want of a handler. -/
theorem refuses_of_unknown (h : Rpc.Asks message method) (hid : message.get? "id" ≠ none)
    (hnotification : isNotification method = false) (hown : method ∉ ownMethods) (hknows : knows router method = false)
    (w : World η) : Refuses router info message w (-32601) ∨ Refuses router info message w (-32602) := by
  rcases RpcCall.toRequest_cases ⟨message.get? "id", method, message.get? "params"⟩ with
    ⟨request, hrequest⟩ | ⟨code, text, data, hrefused, hcode⟩
  · obtain ⟨⟨route, hname, hmethod, hpath⟩, -⟩ := tool_of_toRequest hrequest
    have hresolve : router.resolve request.method.name request.path.text = none := by
      rw [hmethod, hpath]
      change ToolRoute.ofName? method = some route at hname
      simpa [knows, hname] using hknows
    exact .inl (refuses_of_unresolved h hid hrequest hresolve w)
  · have hrefuses : Refuses router info message w code := refuses_of_toRequest h hid hnotification hown hrefused w
    rcases hcode with rfl | rfl
    · exact .inl hrefuses
    · exact .inr hrefuses

/-- An analysis with parameters that are no object is refused. -/
theorem refuses_of_misplaced {params : Json} (h : Rpc.Asks message method) (hid : message.get? "id" ≠ none)
    (hstarts : Text.starts method "analyze_" = true) (hne : method ≠ "analyze_") (hparams : message.get? "params" = some params)
    (hnull : params ≠ .null) (hfields : params.fields? = none) (w : World η) : Refuses router info message w (-32602) := by
  obtain ⟨route, hname⟩ := exists_ofName?_of_analyzer hstarts hne
  have hown : method ∉ ownMethods := by
    intro hown
    rw [ofName?_of_own hown] at hname
    cases hname
  have hnotification : isNotification method = false := by
    by_contra hnotification
    rw [ofName?_of_notification (by simpa using hnotification)] at hname
    cases hname
  have hrefused : RpcCall.toRequest ⟨message.get? "id", method, message.get? "params"⟩ =
      .error (.call Rpc.invalidParams "params must be an object" ((message.get? "id").getD .null) none) := by
    unfold RpcCall.toRequest
    dsimp only
    rw [hname, hparams]
    cases params with
    | null => exact absurd rfl hnull
    | obj fields => cases hfields
    | _ => rfl
  exact refuses_of_toRequest h hid hnotification hown hrefused w

/-- What has to be refused without any handler is refused. -/
theorem refusesUnhandled (router : Router η) (info : ServerInfo) (message : Json) (w : World η) :
    RefusesUnhandled router info message w := by
  refine ⟨fun hnone => ?_, fun method h hid hnotification hown hknows => refuses_of_unknown h hid hnotification hown hknows w,
    fun method params h hid hstarts hne hparams hnull hfields => refuses_of_misplaced h hid hstarts hne hparams hnull hfields w⟩
  obtain ⟨text, htext⟩ := run_answer_of_not_asks hnone
  exact ⟨text, none, fun handlers => htext (router.withHandlers handlers) info w⟩

/-- A message is answered as it must be if the bodies that are taken for JSON are JSON. -/
theorem answered_of_answersJson (hjson : AnswersJson router) (info : ServerInfo) (message : Json) (w : World η) :
    Answered router info message w := by
  have hrefuses := refusesUnhandled router info message w
  by_cases hasks : ∃ method, Rpc.Asks message method
  · obtain ⟨method, hasks⟩ := hasks
    by_cases hnotification : isNotification method = true
    · have hrun := run_answer_notification router info hasks hnotification w
      refine ⟨⟨none, by rw [hrun]⟩, iff_of_true (by rw [hrun]) ⟨method, hasks, .inr hnotification⟩, ?_, hrefuses⟩
      intro r hr
      rw [hrun] at hr
      cases hr
    · obtain ⟨r, v, hreply, hr⟩ : ∃ r v, (reply router info ⟨message.get? "id", method, message.get? "params"⟩).run w =
          (.ok r, v) ∧ r.id = Rpc.ownId message := exists_run_reply hjson hasks w
      have hrun : (answer router info message).run w = _ := run_answer_of_asks hasks (by simpa using hnotification) w
      rw [hreply] at hrun
      dsimp only at hrun
      refine ⟨⟨_, by rw [hrun]⟩, ?_, ?_, hrefuses⟩
      · rw [hrun]
        constructor
        · intro hnone
          refine ⟨method, hasks, .inl ?_⟩
          by_contra hid
          simp [hid] at hnone
        · rintro ⟨other, hother, hid | hsilent⟩
          · simp [hid]
          · exact absurd (hasks.unique hother ▸ hsilent) hnotification
      · intro r' hr'
        rw [hrun] at hr'
        split at hr'
        · cases hr'
        · obtain rfl := Option.some.inj (Except.ok.inj hr')
          exact hr
  · rw [not_exists] at hasks
    obtain ⟨text, htext⟩ := run_answer_of_not_asks hasks
    have hrun := htext router info w
    refine ⟨⟨_, by rw [hrun]⟩, iff_of_false ?_ fun ⟨method, h, _⟩ => hasks method h, ?_, hrefuses⟩
    · rw [hrun]
      nofun
    · intro r hr
      rw [hrun] at hr
      obtain rfl := Option.some.inj (Except.ok.inj hr)
      rfl

end Answers

/-- All messages are answered as they must be exactly if the handlers that calls reach put JSON into every body that is taken for
JSON. -/
theorem answered_iff_answersJson (router : Router η) (info : ServerInfo) :
    (∀ message w, Answered router info message w) ↔ AnswersJson router := by
  constructor
  · intro hanswered message c request route w response hread hrequest hroute hhandler hstatus hlabel
    rw [Option.isSome_iff_ne_none]
    intro hbody
    obtain ⟨answered, hends⟩ := (hanswered message w).ends
    rw [run_answer_of_malformed hread hrequest hroute hhandler hstatus hlabel hbody] at hends
    cases hends
  · exact fun hjson message w => answered_of_answersJson hjson info message w

namespace JsonLines

/-- A handler that answers with one object a line. -/
def handler : Handler Unit := fun _ => pure (.ofText 200 "\x7b\x7d\n\x7b\x7d" (some "application/jsonl"))

def router : Router Unit := [{ method := .post, path := "/api/v1/analyze/lines", description := "One object a line", handler }]

def message : Json := .obj [("jsonrpc", .str "2.0"), ("id", .str "1"), ("method", .str "analyze_lines")]

def world : World Unit := { disk := default, clock := 0, inner := () }

def info : ServerInfo := { name := "tools", version := "1" }

end JsonLines

open JsonLines in
/-- A router that labels nothing `application/json` fails to answer a well-formed request: a label that only begins so is taken for
it. -/
theorem jsonLines_unanswered :
    (∀ route ∈ router, ∀ request w response, ((route.handler request).run w).1 = .ok response →
      response.headers.get? "content-type" ≠ some "application/json") ∧
    Rpc.Asks message "analyze_lines" ∧ ((answer router info message).run world).1 = .error .malformedJson := by
  have hasks : Rpc.Asks message "analyze_lines" := by
    refine ⟨rfl, rfl, by decide, ?_⟩
    rintro id ⟨⟩
    trivial
  refine ⟨?_, hasks, ?_⟩
  · intro route hroute request w response hresponse
    obtain rfl := List.mem_singleton.mp hroute
    obtain rfl := Except.ok.inj hresponse
    decide +kernel
  · exact run_answer_of_malformed (Rpc.ofJson_of_asks hasks) rfl rfl rfl (by decide) (by decide +kernel) (by rfl)

end ToolServer

end QualityGate
