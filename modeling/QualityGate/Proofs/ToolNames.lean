import QualityGate.Proofs.Orders
import QualityGate.Proofs.Protocols

/-!
# Tools by name

A router that was registered route by route has each method and path once. The name of a tool leads back to the route that it was made
from, as long as no kind of analysis is empty or has an underscore in its name; so what is listed can be called, and a call does what
the route's handler does (`tools_callable`).
-/

namespace QualityGate

variable {η : Type}

/-! ## Registered routes -/

/-- A router that routes were registered in, one after the other. -/
inductive Registered : Router η → Prop
  | empty : Registered []
  | register {router next : Router η} {route : Route η} (h : Registered router) (hnext : router.register route = .ok next) :
      Registered next

/-- A registration puts a route behind the others, whose method and path are other ones. -/
theorem Router.register_eq_ok {router next : Router η} {route : Route η} (h : router.register route = .ok next) :
    next = router ++ [route] ∧ ∀ other ∈ router, other.key ≠ route.key := by
  unfold register at h
  split at h
  · cases h
  · rename_i hnone
    refine ⟨(Except.ok.inj h).symm, fun other hother heq => hnone ?_⟩
    exact List.any_eq_true.mpr ⟨other, hother, decide_eq_true heq⟩

/-- The routes of a router have different methods or paths. -/
theorem Registered.distinct {router : Router η} (h : Registered router) :
    router.Pairwise fun earlier later => earlier.key ≠ later.key := by
  induction h with
  | empty => exact .nil
  | register _ hnext ih =>
    obtain ⟨rfl, hnew⟩ := Router.register_eq_ok hnext
    refine List.pairwise_append.mpr ⟨ih, List.pairwise_singleton _ _, ?_⟩
    intro earlier hearlier later hlater
    rw [List.mem_singleton.mp hlater]
    exact hnew earlier hearlier

/-- Any routes with different methods or paths can be registered in their order. -/
theorem registered_iff {router : Router η} : Registered router ↔ router.Pairwise fun earlier later => earlier.key ≠ later.key := by
  refine ⟨Registered.distinct, fun h => ?_⟩
  induction router using List.reverseRecOn with
  | nil => exact .empty
  | append_singleton router route ih =>
    obtain ⟨hrouter, -, hnew⟩ := List.pairwise_append.mp h
    have hnone : (router.any fun other => other.key = route.key) = false := by
      refine List.any_eq_false.mpr fun other hother => ?_
      simpa using hnew other hother route (List.mem_singleton_self route)
    refine Registered.register (ih hrouter) (?_ : Router.register router route = .ok (router ++ [route]))
    unfold Router.register
    rw [hnone]
    rfl

theorem upper_name (method : RequestMethod) : Text.upper method.name = method.name := by
  cases method <;> decide +kernel

/-- Each route is found by its method and its path. -/
theorem Registered.resolve {router : Router η} (h : Registered router) {route : Route η} (hroute : route ∈ router) :
    router.resolve route.method.name route.path = some route := by
  have hkey : Text.upper route.method.name ++ " " ++ route.path = route.key := by
    rw [upper_name]
    rfl
  have hdistinct := h.distinct
  clear h
  unfold Router.resolve
  rw [hkey]
  dsimp only
  induction router with
  | nil => cases hroute
  | cons first rest ih =>
    obtain ⟨hfirst, hrest⟩ := List.pairwise_cons.mp hdistinct
    rcases List.mem_cons.mp hroute with rfl | hmem
    · exact List.find?_cons_of_pos (decide_eq_true rfl)
    · rw [List.find?_cons_of_neg (by simpa using hfirst route hmem)]
      exact ih hmem hrest

/-! ## Names and routes -/

/-- A character that is swapped for one that was not there can be swapped back. -/
theorem Text.swapChar_swapChar {text : String} {old new : Char} (h : new ∉ text.toList) :
    swapChar (swapChar text old new) new old = text := by
  have hchars : (text.toList.map fun c => if c = old then new else c).map (fun c => if c = new then old else c) = text.toList := by
    rw [List.map_map]
    refine (List.map_congr_left fun c hc => ?_).trans (List.map_id _)
    have hne : c ≠ new := fun heq => h (heq ▸ hc)
    by_cases hold : c = old
    · simp [hold]
    · simp [hold, hne]
  unfold swapChar
  rw [String.toList_ofList, hchars, String.ofList_toList]

/-- A text starts with its first part. -/
theorem Text.starts_append (lead rest : String) : starts (lead ++ rest) lead = true := by
  unfold starts
  rw [String.toList_append, List.isPrefixOf_iff_prefix]
  exact List.prefix_append _ _

/-- A text that starts with another is the other and what is left. -/
theorem Text.exists_of_starts {text lead : String} (h : starts text lead = true) :
    ∃ rest, text = lead ++ rest ∧ String.ofList (text.toList.drop lead.length) = rest := by
  obtain ⟨rest, hrest⟩ := List.isPrefixOf_iff_prefix.mp h
  refine ⟨String.ofList rest, ?_, ?_⟩
  · rw [← String.toList_inj, String.toList_append, String.toList_ofList, hrest]
  · rw [← hrest, ← String.length_toList, List.drop_left]

theorem Text.drop_append (lead rest : String) : String.ofList ((lead ++ rest).toList.drop lead.length) = rest := by
  rw [String.toList_append, ← String.length_toList, List.drop_left, String.ofList_toList]

namespace ToolRoute

variable {method : RequestMethod} {path name kind : String}

/-- The tool of an analysis is named like its kind, with underscores for hyphens. -/
theorem toName?_analysis (kind : String) :
    toName? ⟨.post, .path (Invocation.analyzePath ++ kind)⟩ = some (lead ++ Text.swapChar kind '-' '_') := by
  unfold toName?
  dsimp only [Place.text]
  rw [if_pos ⟨rfl, Text.starts_append _ _⟩, Text.drop_append]

theorem toName?_templates : toName? ⟨.get, .path Invocation.templatesPath⟩ = some listTool := by decide +kernel

/-- Only analyses and the list of templates are tools. -/
theorem toName?_eq_some (h : toName? ⟨method, .path path⟩ = some name) :
    (∃ kind, method = .post ∧ path = Invocation.analyzePath ++ kind ∧ name = lead ++ Text.swapChar kind '-' '_') ∨
      (method = .get ∧ path = Invocation.templatesPath ∧ name = listTool) := by
  unfold toName? at h
  dsimp only [Place.text] at h
  split at h
  · rename_i hanalysis
    obtain ⟨kind, hpath, hrest⟩ := Text.exists_of_starts hanalysis.2
    rw [hrest] at h
    exact .inl ⟨kind, hanalysis.1, hpath, (Option.some.inj h).symm⟩
  split at h
  · rename_i htemplates
    exact .inr ⟨htemplates.1, htemplates.2, (Option.some.inj h).symm⟩
  · cases h

/-- The name of an analysis leads to its route, with hyphens for underscores. -/
theorem ofName?_analysis (h : kind ≠ "") :
    ofName? (lead ++ kind) = some ⟨.post, .path (Invocation.analyzePath ++ Text.swapChar kind '_' '-')⟩ := by
  have hne : lead ++ kind ≠ lead := by
    intro heq
    have hlength := congrArg String.length heq
    rw [String.length_append] at hlength
    exact h (String.length_eq_zero_iff.mp (by omega))
  unfold ofName?
  rw [if_pos ⟨Text.starts_append _ _, hne⟩, Text.drop_append]

theorem ofName?_listTool : ofName? listTool = some ⟨.get, .path Invocation.templatesPath⟩ := by decide +kernel

/-- Only the names of analyses and that of the list of templates lead to paths. -/
theorem ofName?_eq_some (h : ofName? name = some ⟨method, .path path⟩) :
    (∃ kind, kind ≠ "" ∧ name = lead ++ kind ∧ method = .post ∧ path = Invocation.analyzePath ++ Text.swapChar kind '_' '-') ∨
      (name = listTool ∧ method = .get ∧ path = Invocation.templatesPath) := by
  unfold ofName? at h
  split at h
  · rename_i hanalysis
    obtain ⟨kind, hname, hrest⟩ := Text.exists_of_starts hanalysis.1
    have hne : kind ≠ "" := by
      rintro rfl
      exact hanalysis.2 (hname.trans String.append_empty)
    rw [hrest] at h
    cases h
    exact .inl ⟨kind, hne, hname, rfl, rfl⟩
  split at h
  · rename_i hlist
    cases h
    exact .inr ⟨hlist, rfl, rfl⟩
  · obtain ⟨answer, -, hanswer⟩ := Option.map_eq_some_iff.mp h
    cases hanswer

/-- A text with swapped characters is not empty unless it was. -/
theorem swapChar_ne_empty {old new : Char} (h : kind ≠ "") : Text.swapChar kind old new ≠ "" := by
  intro heq
  have hlength := congrArg (String.length) heq
  refine h (String.length_eq_zero_iff.mp ?_)
  simpa [Text.swapChar] using hlength

/-- The name of a tool leads back to the method and the path that it was made from. -/
theorem ofName?_of_toName? (h : toName? ⟨method, .path path⟩ = some name)
    (hkind : method = .post → ∀ kind, path = Invocation.analyzePath ++ kind → kind ≠ "" ∧ '_' ∉ kind.toList) :
    ofName? name = some ⟨method, .path path⟩ := by
  rcases toName?_eq_some h with ⟨kind, rfl, rfl, rfl⟩ | ⟨rfl, rfl, rfl⟩
  · obtain ⟨hne, hplain⟩ := hkind rfl kind rfl
    rw [ofName?_analysis (swapChar_ne_empty hne), Text.swapChar_swapChar hplain]
  · exact ofName?_listTool

/-- A name without hyphens is that of the tool of the path that it leads to. -/
theorem toName?_of_ofName? (h : ofName? name = some ⟨method, .path path⟩) (hplain : '-' ∉ name.toList) :
    toName? ⟨method, .path path⟩ = some name := by
  rcases ofName?_eq_some h with ⟨kind, -, rfl, rfl, rfl⟩ | ⟨rfl, rfl, rfl⟩
  · have hkind : '-' ∉ kind.toList := by
      rw [String.toList_append] at hplain
      exact fun hmem => hplain (List.mem_append_right _ hmem)
    rw [toName?_analysis, Text.swapChar_swapChar hkind]
  · exact toName?_templates

end ToolRoute

/-! ## Calls -/

/-- What a route answers to a request: what its handler does; a failure becomes a response, and is logged when nobody foresaw it. -/
def Route.answer (route : Route η) (request : Request) : Action η Response := do
  try route.handler request
  catch failure =>
    let (response, unforeseen) := Router.ofFailure failure
    if unforeseen then
      Action.log .error "handler failed"
        (request.path.json?.toList.map (("path", ·)) ++ [("protocol", encode request.asked.protocol)])
    return response

/-- A request that leads to a route is answered by that. -/
theorem Router.handle_eq_answer {router : Router η} {request : Request} {route : Route η}
    (h : router.resolve request.method.name request.path.text = some route) : router.handle request = route.answer request := by
  unfold handle Route.answer
  rw [h]

namespace ToolServer

/-- The request of a route that the call of a tool by its name comes to. -/
def requestOf (route : Route η) (name : String) (fields : Record Json) : Request where
  method := route.method
  path := .path route.path
  body := (Json.obj fields).compact
  headers := Response.typeHeader Response.jsonType
  format := .ofJson (Record.get? fields "format")
  asked := .mcp .null name

/-- A response as the answer of a tool. -/
def answerOf (response : Response) : ToolAnswer :=
  if 400 ≤ response.status then ⟨response.errorMessage, true⟩ else ⟨response.body, false⟩

/-- A tool is the one of a route when it is named and described as the route says. -/
structure IsToolOf (tool : ToolInfo) (route : Route η) : Prop where
  name : ToolRoute.toName? ⟨route.method, .path route.path⟩ = some tool.name
  description : tool.description = route.description
  inputSchema : tool.inputSchema = route.inputSchema.getD noInput

/-- No kind of analysis in a router is empty or has an underscore. -/
def PlainKinds (router : Router η) : Prop :=
  ∀ route ∈ router, route.method = .post → ∀ kind, route.path = Invocation.analyzePath ++ kind → kind ≠ "" ∧ '_' ∉ kind.toList

instance (router : Router η) : Decidable (PlainKinds router) :=
  decidable_of_iff (∀ route ∈ router, route.method = .post → Text.starts route.path Invocation.analyzePath →
      String.ofList (route.path.toList.drop Invocation.analyzePath.length) ≠ "" ∧
        '_' ∉ route.path.toList.drop Invocation.analyzePath.length) <| by
    refine forall₃_congr fun route _ _ => ⟨fun h kind hpath => ?_, fun h hstarts => ?_⟩
    · have hkind := h (hpath ▸ Text.starts_append _ _)
      rw [hpath, Text.drop_append] at hkind
      refine ⟨hkind.1, ?_⟩
      rw [← @Text.drop_append Invocation.analyzePath kind, String.toList_ofList]
      exact hkind.2
    · obtain ⟨kind, hpath, hrest⟩ := Text.exists_of_starts hstarts
      rw [hrest, ← @String.toList_ofList (route.path.toList.drop _), hrest]
      exact h kind hpath

section Tools

variable {router : Router η} {route : Route η} {name : String}

/-- The tools of a router are those of its routes. -/
theorem mem_tools {tool : ToolInfo} : tool ∈ tools router ↔ ∃ route ∈ router, IsToolOf tool route := by
  unfold tools
  dsimp only
  rw [mem_sortBy, List.mem_filterMap]
  refine exists_congr fun route => and_congr_right fun _ => ?_
  rw [Option.map_eq_some_iff]
  constructor
  · rintro ⟨name, hname, rfl⟩
    exact ⟨hname, rfl, rfl⟩
  · rintro ⟨hname, hdescription, hschema⟩
    refine ⟨tool.name, hname, ?_⟩
    rw [← hdescription, ← hschema]

/-- A call of a name that leads to a route of the router does what the route answers. -/
theorem call_eq_answer (h : Registered router) (hroute : route ∈ router)
    (hname : ToolRoute.ofName? name = some ⟨route.method, .path route.path⟩) (fields : Record Json) :
    call router name (.obj fields) = do return answerOf (← route.answer (requestOf route name fields)) := by
  have hresolve : router.resolve route.method.name route.path = some route := h.resolve hroute
  have hknows : knows router name = true := by
    unfold knows
    rw [hname, Option.bind_some]
    exact Option.isSome_iff_exists.mpr ⟨route, hresolve⟩
  have hrequest : RpcCall.toRequest ⟨some .null, name, some (.obj fields)⟩ = .ok (requestOf route name fields) := by
    unfold RpcCall.toRequest
    dsimp only
    rw [hname]
    rfl
  have hmade : (Action.ofExcept (.ok (requestOf route name fields)) : Action η Request) = pure (requestOf route name fields) := rfl
  have hhandle : router.handle (requestOf route name fields) = route.answer (requestOf route name fields) :=
    Router.handle_eq_answer hresolve
  unfold call
  rw [hknows, hrequest, hmade, pure_bind, hhandle]
  rfl

/-- Distinct routes are listed under distinct names, since each name leads back to its route. -/
theorem nodup_names (h : Registered router) (hkinds : PlainKinds router) : ((tools router).map ToolInfo.name).Nodup := by
  have hsorted : ((tools router).map ToolInfo.name).Perm
      (router.filterMap fun route => ToolRoute.toName? ⟨route.method, .path route.path⟩) := by
    unfold tools
    dsimp only
    refine ((List.mergeSort_perm _ _).map ToolInfo.name).trans ?_
    simp [List.map_filterMap, Option.map_map, Function.comp_def]
  refine hsorted.nodup_iff.mpr (List.pairwise_filterMap.mpr (h.distinct.imp_of_mem ?_))
  rintro earlier later hearlier hlater hne name hname other hother rfl
  have hback := ToolRoute.ofName?_of_toName? hname (hkinds earlier hearlier)
  rw [ToolRoute.ofName?_of_toName? hother (hkinds later hlater), Option.some.injEq, ToolRoute.mk.injEq, Place.path.injEq] at hback
  obtain ⟨hmethod, hpath⟩ := hback
  exact hne (by rw [Route.key, Route.key, hmethod, hpath])

/-- Where no kind of analysis is empty or has an underscore, the listed tools have distinct names, and each name leads to the method and
the path of its route and can be called: a call does what the route answers. Every name without hyphens that leads to a route is listed. -/
theorem tools_callable (h : Registered router) (hkinds : PlainKinds router) :
    ((tools router).map ToolInfo.name).Nodup ∧
    (∀ tool ∈ tools router, ∃ route ∈ router, IsToolOf tool route ∧
      ToolRoute.ofName? tool.name = some ⟨route.method, .path route.path⟩ ∧
      ∀ fields, call router tool.name (.obj fields) = do return answerOf (← route.answer (requestOf route tool.name fields))) ∧
    ∀ name, '-' ∉ name.toList → ∀ route ∈ router, ToolRoute.ofName? name = some ⟨route.method, .path route.path⟩ →
      ∃ tool ∈ tools router, tool.name = name := by
  refine ⟨nodup_names h hkinds, ?_, ?_⟩
  · intro tool htool
    obtain ⟨route, hroute, htoolOf⟩ := mem_tools.mp htool
    have hname := ToolRoute.ofName?_of_toName? htoolOf.name (hkinds route hroute)
    exact ⟨route, hroute, htoolOf, hname, call_eq_answer h hroute hname⟩
  · intro name hplain route hroute hname
    have htool : IsToolOf ⟨name, route.description, route.inputSchema.getD noInput⟩ route :=
      ⟨ToolRoute.toName?_of_ofName? hname hplain, rfl, rfl⟩
    exact ⟨_, mem_tools.mpr ⟨route, hroute, htool⟩, rfl⟩

end Tools

namespace Catalogue

/-- A handler that answers with the body of the request. -/
def handler : Handler Unit := fun request => pure (.ofText 200 request.body)

/-- A router with an analysis, a route that is no tool, and the list of templates. -/
def router : Router Unit :=
  [{ method := .post, path := "/api/v1/analyze/dead-code", description := "Dead code", handler },
    { method := .get, path := "/health", description := "Health", handler },
    { method := .get, path := "/api/v1/templates", description := "Templates", handler }]

theorem registered : Registered router := registered_iff.mpr (by decide +kernel)

end Catalogue

/-- The analysis and the list of templates are the tools of a router, under different names; a call does what the handler does. -/
theorem catalogue_callable :
    Registered Catalogue.router ∧ PlainKinds Catalogue.router ∧
      ((tools Catalogue.router).map ToolInfo.name).Nodup ∧
      (∀ name ∈ ["analyze_dead_code", "list_templates"], ∃ tool ∈ tools Catalogue.router, tool.name = name) ∧
      ((call Catalogue.router "analyze_dead_code" (.obj [("days", .str "7")])).run
        { disk := default, clock := 0, inner := () }).1.toOption = some ⟨"\x7b\"days\":\"7\"\x7d", false⟩ := by
  have hkinds : PlainKinds Catalogue.router := by decide +kernel
  obtain ⟨hdistinct, -, hlisted⟩ := tools_callable Catalogue.registered hkinds
  refine ⟨Catalogue.registered, hkinds, hdistinct, ?_, by decide +kernel⟩
  refine List.forall_mem_cons.mpr ⟨?_, List.forall_mem_singleton.mpr ?_⟩
  · exact hlisted "analyze_dead_code" (by decide) _ List.mem_cons_self (by decide +kernel)
  · exact hlisted "list_templates" (by decide) Catalogue.router[2] (List.getElem_mem _) (by decide +kernel)

end ToolServer

end QualityGate
