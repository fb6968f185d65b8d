import QualityGate.Analysis.Service
import QualityGate.Proofs.Actions
import QualityGate.Proofs.JsonText
import QualityGate.Proofs.Lines
import QualityGate.Proofs.Records
import QualityGate.Protocol.Http
import QualityGate.Protocol.ToolServer

/-!
# One answer, however it is asked for

A request for an analysis is answered by what its body says, read as JSON; where the body comes from does not matter. A body of the
web and the parameters of a tool call reach the analysis as they are. The flags of a command get there with underscores for hyphens
in their names, which only matters for a field that is spelled `project-path` (`responses_agree`).
-/

namespace QualityGate

/-! ## Bodies -/

namespace Json

/-- A numeral does not start with a blank. -/
theorem takeNumber_blank {c : Char} (h : isBlank c) (rest : List Char) : takeNumber (c :: rest) = none := by
  cases hread : takeNumber (c :: rest) with
  | none => rfl
  | some found =>
    rcases head_of_takeNumber hread with rfl | hdigit
    · exact absurd h (by decide)
    · have hrange : '0' ≤ c ∧ c ≤ '9' := by simpa [Char.isDigit, Char.le_def] using hdigit
      have hlow : 48 ≤ c.toNat := hrange.1
      have hhigh : c.toNat ≤ 57 := hrange.2
      simp only [isBlank, Bool.or_eq_true, Bool.and_eq_true, decide_eq_true_eq] at h
      omega

/-- A text of blanks is not JSON. -/
theorem ofText?_blank {text : String} (h : (trim text.toList).isEmpty) : ofText? text = none := by
  have hblank : ∀ c ∈ text.toList, isBlank c := by
    rw [List.isEmpty_iff, trim, trimEnd_eq_nil_iff] at h
    intro c hc
    rw [← List.takeWhile_append_dropWhile (p := isBlank) (l := text.toList), List.mem_append] at hc
    exact hc.elim List.mem_takeWhile_imp (h c)
  have hvalue : ∀ fuel, takeValue fuel text.toList = none := by
    intro fuel
    cases fuel with
    | zero => rfl
    | succ fuel =>
      rw [takeValue]
      cases hskip : skipGap text.toList with
      | nil => rfl
      | cons c rest =>
        have hc : isBlank c := hblank c ((List.dropWhile_sublist _).subset (hskip ▸ List.mem_cons_self))
        split
        · rename_i heq; rw [(List.cons.inj heq).1] at hc; exact absurd hc (by decide)
        · rename_i heq; rw [(List.cons.inj heq).1] at hc; exact absurd hc (by decide)
        · rename_i heq; rw [(List.cons.inj heq).1] at hc; exact absurd hc (by decide)
        · rename_i heq; rw [(List.cons.inj heq).1] at hc; exact absurd hc (by decide)
        · rename_i heq; rw [(List.cons.inj heq).1] at hc; exact absurd hc (by decide)
        · rename_i heq; rw [(List.cons.inj heq).1] at hc; exact absurd hc (by decide)
        · rw [takeNumber_blank hc]
          rfl
  unfold ofText?
  dsimp only
  rw [hvalue]

end Json

namespace Request

/-- A body that is JSON is read as the value. -/
theorem bodyJson_eq {r : Request} {j : Json} (h : Json.ofText? r.body = some j) : r.bodyJson = .ok j := by
  have hblank : ¬ (trim r.body.toList).isEmpty := by
    intro hblank
    rw [Json.ofText?_blank hblank] at h
    cases h
  unfold bodyJson
  rw [if_neg hblank, h]

/-- Two bodies that are checked alike have the same outcome. -/
theorem checked_congr {α : Type} {check : Check α} {r s : Request} {x y : Json} (hr : Json.ofText? r.body = some x)
    (hs : Json.ofText? s.body = some y) (h : check (some x) = check (some y)) : r.checked check = s.checked check := by
  unfold checked
  rw [bodyJson_eq hr, bodyJson_eq hs]
  simp only [bind, Except.bind, h]

end Request

/-! ## Answers -/

namespace Router

variable {η : Type}

/-- The response to the end of a handler. -/
def responseOf : Except Failure Response → Response
  | .ok response => response
  | .error failure => (ofFailure failure).1

/-- Handling a request ends with a response: that of the handler, or that to its failure. -/
theorem run_handle {router : Router η} {request : Request} {route : Route η}
    (h : router.resolve request.method.name request.path.text = some route) (w : World η) :
    ((router.handle request).run w).1 = .ok (responseOf ((route.handler request).run w).1) := by
  unfold handle
  rw [h]
  have hrun : (route.handler request).run w = route.handler request w := rfl
  cases hbody : route.handler request w with
  | mk result after =>
    rw [hrun, hbody]
    simp only [Action.run, ExceptT.run, bind, ExceptT.bind, ExceptT.bindCont, ExceptT.mk, tryCatch, tryCatchThe,
      MonadExceptOf.tryCatch, ExceptT.tryCatch, StateT.bind, hbody]
    cases result with
    | ok response => rfl
    | error failure =>
      simp only [responseOf, pure]
      delta StateT.pure
      simp only [pure]
      cases (ofFailure failure).2 <;> rfl

end Router

/-- A handler that checks the body depends on what the check says of the body. -/
theorem checkedHandler_congr {η α : Type} {check : Check α} {answer : α → Action η Result} {r s : Request}
    (h : r.checked check = s.checked check) :
    checkedHandler check (fun a _ => answer a) r = checkedHandler check (fun a _ => answer a) s := by
  unfold checkedHandler
  rw [h]

/-- A body that is refused is answered with the refusal, and nothing is done. -/
theorem run_checkedHandler_error {η α : Type} {check : Check α} {answer : α → Request → Action η Result} {r : Request}
    {failure : Failure} (h : r.checked check = .error failure) (w : World η) :
    ((checkedHandler check answer r).run w).1 = .error failure := by
  unfold checkedHandler
  rw [h]
  rfl

namespace Query

/-- The fields that are looked at. -/
def fieldNames : List String := ["project_path", "format", "include", "exclude", "toolchain", "threshold", "days", "file"]

/-- Bodies with the same fields, as far as these are looked at, ask for the same. -/
theorem check_congr {kind : Option AnalysisKind} {x y : Record Json} (h : ∀ name ∈ fieldNames, x.get? name = y.get? name) :
    check kind (some (.obj x)) = check kind (some (.obj y)) := by
  have hfield : ∀ {α : Type} (name : String) (c : Check α), name ∈ fieldNames → Check.field x name c = Check.field y name c := by
    intro α name c hname
    unfold Check.field
    rw [h name hname]
  unfold check Check.object
  dsimp only
  rw [hfield "project_path" _ (by decide), hfield "format" _ (by decide), hfield "include" _ (by decide),
    hfield "exclude" _ (by decide), hfield "toolchain" _ (by decide), hfield "threshold" _ (by decide), hfield "days" _ (by decide),
    hfield "file" _ (by decide)]

end Query

namespace Analyzer

variable {η : Type}

/-- The path of a kind of analysis leads to its route. -/
theorem resolve_router (a : Analyzer η) (kind : AnalysisKind) :
    a.router.resolve "POST" (Invocation.analyzePath ++ kind.name) = some (a.route kind) := by
  cases kind <;> rfl

/-- A request for an analysis leads to the route of that. -/
theorem resolve_request (a : Analyzer η) {kind : AnalysisKind} {r : Request}
    (h : r.method = .post ∧ r.path = .path (Invocation.analyzePath ++ kind.name)) :
    a.router.resolve r.method.name r.path.text = some (a.route kind) := by
  rw [h.1, h.2]
  exact a.resolve_router kind

/-- Requests for an analysis whose bodies check alike have the same answer. -/
theorem handle_congr (a : Analyzer η) {kind : AnalysisKind} {r s : Request}
    (hr : r.method = .post ∧ r.path = .path (Invocation.analyzePath ++ kind.name))
    (hs : s.method = .post ∧ s.path = .path (Invocation.analyzePath ++ kind.name))
    (h : r.checked (Query.check (some kind)) = s.checked (Query.check (some kind))) (w : World η) :
    ((a.router.handle r).run w).1 = ((a.router.handle s).run w).1 := by
  have hhandler : (a.route kind).handler r = (a.route kind).handler s := checkedHandler_congr h
  rw [Router.run_handle (a.resolve_request hr), Router.run_handle (a.resolve_request hs), hhandler]

end Analyzer

/-! ## Flags -/

/-- What a flag can give: a text, a truth value or a list of texts. -/
inductive IsFlagValue : Json → Prop
  | text (s : String) : IsFlagValue (.str s)
  | truth (b : Bool) : IsFlagValue (.bool b)
  | texts (items : List String) : IsFlagValue (.strings items)

namespace IsFlagValue

/-- What a flag gives is written without loss, and has rounded numbers. -/
theorem rounded_written {j : Json} (h : IsFlagValue j) : j.Rounded ∧ j.written = j := by
  cases h with
  | text s => exact ⟨trivial, rfl⟩
  | truth b => exact ⟨trivial, rfl⟩
  | texts items =>
    have hitems : Json.RoundedItems (items.map .str) ∧ Json.writtenItems (items.map .str) = items.map .str := by
      induction items with
      | nil => exact ⟨trivial, rfl⟩
      | cons s rest ih => exact ⟨⟨trivial, ih.1⟩, congrArg (Json.str s :: ·) ih.2⟩
    exact ⟨hitems.1, congrArg Json.arr hitems.2⟩

/-- An object of such values is read back, its fields in record order. -/
theorem ofText?_compact {fields : Record Json} (h : ∀ field ∈ fields, IsFlagValue field.2) :
    Json.ofText? (Json.obj fields).compact = some (.obj (Record.ofPairs fields)) := by
  have hrounded : (Json.obj fields).Rounded := Json.roundedFields_iff.mpr fun field hfield => (h field hfield).rounded_written.1
  have hwritten : Json.writtenFields fields = fields := by
    induction fields with
    | nil => rfl
    | cons field rest ih =>
      obtain ⟨name, value⟩ := field
      have hrest := ih (fun field hfield => h field (.tail _ hfield)) (Json.roundedFields_iff.mpr fun field hfield =>
        (h field (.tail _ hfield)).rounded_written.1)
      rw [Json.writtenFields, (h (name, value) (.head _)).rounded_written.2, hrest]
  rw [Json.ofText?_compact hrounded, Json.written, hwritten]

end IsFlagValue

namespace Invocation

variable {flags b : Record Json}

/-- A name with underscores for hyphens in which there is no underscore had no hyphen. -/
theorem eq_of_map_swap {chars name : List Char} (h : chars.map (fun c => if c = '-' then '_' else c) = name) (hplain : '_' ∉ name) :
    chars = name := by
  rw [← h]
  conv_lhs => rw [← List.map_id chars]
  refine List.map_congr_left fun c hc => ?_
  by_cases hhyphen : c = '-'
  · refine absurd ?_ hplain
    rw [← h]
    exact List.mem_map.mpr ⟨c, hc, if_pos hhyphen⟩
  · exact (if_neg hhyphen).symm

/-- The flags for a field that is looked at are spelled as the field, or `project-path`. -/
theorem fieldOfFlag_eq_iff {flag name : String} (hname : name ∈ Query.fieldNames) (hflag : flag ≠ "project-path") :
    fieldOfFlag flag = name ↔ flag = name := by
  constructor
  · intro h
    have hchars : flag.toList.map (fun c => if c = '-' then '_' else c) = name.toList := by
      rw [← h, fieldOfFlag, Text.swapChar, String.toList_ofList]
    rw [← String.toList_inj]
    by_cases hplain : '_' ∉ name.toList
    · exact eq_of_map_swap hchars hplain
    · have hpath : name = "project_path" := by
        simp only [Query.fieldNames, List.mem_cons, List.not_mem_nil, or_false] at hname
        rcases hname with rfl | rfl | rfl | rfl | rfl | rfl | rfl | rfl
        · rfl
        all_goals exact absurd (by decide) hplain
      subst hpath
      obtain ⟨before, rest, hsplit, hbefore, hrest⟩ := List.map_eq_append_iff.mp
        (hchars.trans (show _ = "project".toList ++ '_' :: "path".toList by decide))
      obtain ⟨c, after, rfl, hc, hafter⟩ := List.map_eq_cons_iff.mp hrest
      have hwhole : flag.toList = "project".toList ++ c :: "path".toList := by
        rw [hsplit, eq_of_map_swap hbefore (by decide), eq_of_map_swap hafter (by decide)]
      by_cases hhyphen : c = '-'
      · exact absurd (String.toList_inj.mp (hwhole.trans (hhyphen ▸ rfl))) hflag
      · rw [if_neg hhyphen] at hc
        exact hwhole.trans (hc ▸ rfl)
  · rintro rfl
    simp only [Query.fieldNames, List.mem_cons, List.not_mem_nil, or_false] at hname
    rcases hname with rfl | rfl | rfl | rfl | rfl | rfl | rfl | rfl <;> rfl

/-- A field that is looked at is what the body says of it, where the project has no second spelling. -/
theorem last?_assignments {name : String} (hname : name ∈ Query.fieldNames) (h : "project-path" ∉ b.keys) :
    Record.last? (assignments b) name = Record.last? b name := by
  induction b with
  | nil => rfl
  | cons field rest ih =>
    obtain ⟨flag, value⟩ := field
    rw [Record.keys, List.map_cons, List.mem_cons, not_or] at h
    have hcons : assignments ((flag, value) :: rest) = (fieldOfFlag flag, value) :: assignments rest := rfl
    have hsame : name = fieldOfFlag flag ↔ name = flag :=
      eq_comm.trans ((fieldOfFlag_eq_iff hname (Ne.symm h.1)).trans eq_comm)
    rw [hcons, Record.last?, Record.last?, ih h.2]
    simp only [hsame]

/-- The body that the flags for some fields make says what the fields say. -/
theorem get?_body {name : String} (hflags : assignments flags = assignments b) (hb : b.keys.Nodup) (hpath : "project-path" ∉ b.keys)
    (hname : name ∈ Query.fieldNames) : (Record.ofPairs (body flags)).get? name = b.get? name := by
  have hbase : name ≠ Inherited.baseName := by
    rintro rfl
    exact absurd hname (by decide)
  calc (Record.ofPairs (body flags)).get? name = Record.last? (body flags) name := Record.get?_ofPairs _ _
    _ = (body flags).get? name := Record.last?_eq_get? (Record.nodup_keys_assignAll _) name
    _ = Record.last? (assignments b) name := by rw [body, Record.get?_assignAll _ hbase, hflags]
    _ = Record.last? b name := last?_assignments hname hpath
    _ = b.get? name := Record.last?_eq_get? hb name

/-- The body that flags make holds nothing but their values. -/
theorem isFlagValue_body (hflags : assignments flags = assignments b) (hvalues : ∀ field ∈ b, IsFlagValue field.2) :
    ∀ field ∈ body flags, IsFlagValue field.2 := by
  intro field hfield
  have hmem : field ∈ assignments b := hflags ▸ Record.mem_assignAll hfield
  obtain ⟨given, hgiven, rfl⟩ := List.mem_map.mp hmem
  exact hvalues given hgiven

/-- The command for an analysis leads to its path. -/
theorem route_analyze (kind : AnalysisKind) :
    route ["analyze", kind.name] = .ok (.post, .path (analyzePath ++ kind.name)) := by
  cases kind <;> rfl

end Invocation

/-- The name of a kind's tool leads to the path of the kind. -/
theorem ToolRoute.ofName?_toName? {kind : AnalysisKind} {tool : String}
    (h : toName? ⟨.post, .path (Invocation.analyzePath ++ kind.name)⟩ = some tool) :
    ofName? tool = some ⟨.post, .path (Invocation.analyzePath ++ kind.name)⟩ := by
  cases kind <;> cases h <;> rfl

/-- A body of the web is the body of the request. -/
theorem HttpRequest.exists_toRequest {url path : String} {address : Address} (headers : Record (List String)) (text : String)
    (remote : Option String) (hurl : Address.ofText? url = some address) (hpath : address.path = path) :
    ∃ r, toRequest ⟨"POST", url, headers, text, remote⟩ = .ok r ∧ (r.method = .post ∧ r.path = .path path) ∧ r.body = text := by
  unfold toRequest
  dsimp only
  rw [hurl, ← hpath]
  exact ⟨_, rfl, ⟨rfl, rfl⟩, rfl⟩

/-- The parameters of a tool call are the body of the request. -/
theorem RpcCall.exists_toRequest {kind : AnalysisKind} {tool : String} (id : Option Json) (params : Record Json)
    (h : ToolRoute.toName? ⟨.post, .path (Invocation.analyzePath ++ kind.name)⟩ = some tool) :
    ∃ r, toRequest ⟨id, tool, some (.obj params)⟩ = .ok r ∧
      (r.method = .post ∧ r.path = .path (Invocation.analyzePath ++ kind.name)) ∧ r.body = (Json.obj params).compact := by
  unfold toRequest
  dsimp only
  rw [ToolRoute.ofName?_toName? h]
  exact ⟨_, rfl, ⟨rfl, rfl⟩, rfl⟩

/-- The flags of a command make the body of the request. -/
theorem Invocation.exists_toRequest (kind : AnalysisKind) (args : List String) (flags : Record Json) :
    ∃ r, toRequest ⟨["analyze", kind.name], args, flags⟩ = .ok r ∧
      (r.method = .post ∧ r.path = .path (analyzePath ++ kind.name)) ∧ r.body = (Json.obj (body flags)).compact := by
  unfold toRequest
  dsimp only
  rw [route_analyze]
  exact ⟨_, rfl, ⟨rfl, rfl⟩, rfl⟩

namespace Analyzer

variable {η : Type}

/-- A request for an analysis has the same answer as a body of the web and as a tool call; and as the flags of a command, when its
fields are such as flags can give and none is spelled `project-path`, which as a flag would be the field `project_path`. -/
theorem responses_agree (a : Analyzer η) (kind : AnalysisKind) (w : World η) (b : Record Json) {text url tool : String}
    {address : Address} (headers : Record (List String)) (remote : Option String) (id : Option Json)
    (htext : Json.ofText? text = some (.obj b)) (hwritten : Json.ofText? (Json.obj b).compact = some (.obj b))
    (hurl : Address.ofText? url = some address) (hpath : address.path = Invocation.analyzePath ++ kind.name)
    (htool : ToolRoute.toName? ⟨.post, .path (Invocation.analyzePath ++ kind.name)⟩ = some tool) :
    ∃ http mcp response, HttpRequest.toRequest ⟨"POST", url, headers, text, remote⟩ = .ok http ∧
      RpcCall.toRequest ⟨id, tool, some (.obj b)⟩ = .ok mcp ∧
      ((a.router.handle http).run w).1 = .ok response ∧ ((a.router.handle mcp).run w).1 = .ok response ∧
      ∀ flags args, Invocation.assignments flags = Invocation.assignments b → (∀ field ∈ b, IsFlagValue field.2) →
        "project-path" ∉ b.keys → ∃ cli, Invocation.toRequest ⟨["analyze", kind.name], args, flags⟩ = .ok cli ∧
          ((a.router.handle cli).run w).1 = .ok response := by
  obtain ⟨http, hhttp, hhttpRoute, hhttpBody⟩ := HttpRequest.exists_toRequest headers text remote hurl hpath
  obtain ⟨mcp, hmcp, hmcpRoute, hmcpBody⟩ := RpcCall.exists_toRequest id b htool
  have hhttpRead : Json.ofText? http.body = some (.obj b) := hhttpBody ▸ htext
  have hmcpRead : Json.ofText? mcp.body = some (.obj b) := hmcpBody ▸ hwritten
  obtain ⟨response, hresponse⟩ : ∃ response, ((a.router.handle http).run w).1 = .ok response :=
    ⟨_, Router.run_handle (a.resolve_request hhttpRoute) w⟩
  refine ⟨http, mcp, response, hhttp, hmcp, hresponse, ?_, fun flags args hflags hvalues hspelled => ?_⟩
  · rw [a.handle_congr hmcpRoute hhttpRoute (Request.checked_congr hmcpRead hhttpRead rfl), hresponse]
  · obtain ⟨cli, hcli, hcliRoute, hcliBody⟩ := Invocation.exists_toRequest kind args flags
    have hcliRead : Json.ofText? cli.body = some (.obj (Record.ofPairs (Invocation.body flags))) :=
      hcliBody ▸ IsFlagValue.ofText?_compact (Invocation.isFlagValue_body hflags hvalues)
    have hb : b.keys.Nodup := by
      have hpairs := hwritten.symm.trans (IsFlagValue.ofText?_compact hvalues)
      rw [Json.obj.inj (Option.some.inj hpairs)]
      exact Record.nodup_keys_ofPairs b
    refine ⟨cli, hcli, ?_⟩
    rw [a.handle_congr hcliRoute hhttpRoute (Request.checked_congr hcliRead hhttpRead
      (Query.check_congr fun name hname => Invocation.get?_body hflags hb hspelled hname)), hresponse]

/-- The analysis of the current project is the same with a body that is spread over lines, as a tool call and with a flag. -/
theorem ownProject_responses_agree :
    let a : Analyzer Unit := ⟨fun _ => pure ⟨0, "", "", false⟩, ⟨"/", "/.refactor-gate"⟩, 1, 0, none, none⟩
    let w : World Unit := { disk := default, clock := 0, inner := () }
    let b : Record Json := [("project_path", .str ".")]
    ∃ cli http mcp response, Invocation.toRequest ⟨["analyze", "complexity"], [], [("project-path", .str ".")]⟩ = .ok cli ∧
      HttpRequest.toRequest ⟨"POST", "/api/v1/analyze/complexity?format=full", [], (Json.obj b).pretty ++ "\n", none⟩ = .ok http ∧
      RpcCall.toRequest ⟨none, "analyze_complexity", some (.obj b)⟩ = .ok mcp ∧ ((a.router.handle cli).run w).1 = .ok response ∧
      ((a.router.handle http).run w).1 = .ok response ∧ ((a.router.handle mcp).run w).1 = .ok response := by
  intro a w b
  have hvalues : ∀ field ∈ b, IsFlagValue field.2 := by
    intro field hfield
    rw [List.mem_singleton.mp hfield]
    exact .text "."
  have hrounded : (Json.obj b).Rounded := ⟨trivial, trivial⟩
  have hwritten : (Json.obj b).written = .obj b := rfl
  have hpretty : Json.ofText? ((Json.obj b).pretty ++ "\n") = some (.obj b) := by rw [Json.ofText?_pretty hrounded, hwritten]
  have hcompact : Json.ofText? (Json.obj b).compact = some (.obj b) := by rw [Json.ofText?_compact hrounded, hwritten]
  have haddress : Address.ofText? "/api/v1/analyze/complexity?format=full" =
      some ⟨"/api/v1/analyze/complexity", "?format=full", [("format", "full")]⟩ := by decide +kernel
  have htool : ToolRoute.toName? ⟨.post, .path (Invocation.analyzePath ++ AnalysisKind.complexity.name)⟩ =
      some "analyze_complexity" := by decide +kernel
  have hname : Invocation.fieldOfFlag "project-path" = "project_path" ∧ Invocation.fieldOfFlag "project_path" = "project_path" := by
    decide +kernel
  have hassigned : Invocation.assignments [("project-path", .str ".")] = Invocation.assignments b := by
    simp only [Invocation.assignments, b, List.map, hname.1, hname.2]
  have hspelled : "project-path" ∉ Record.keys b := by simp [Record.keys, b]
  have hpath : "/api/v1/analyze/complexity" = Invocation.analyzePath ++ AnalysisKind.complexity.name := by decide +kernel
  obtain ⟨http, mcp, response, hhttp, hmcp, hhttpAnswer, hmcpAnswer, hflags⟩ :=
    a.responses_agree .complexity w b [] none none hpretty hcompact haddress hpath htool
  obtain ⟨cli, hcli, hcliAnswer⟩ := hflags [("project-path", .str ".")] [] hassigned hvalues hspelled
  exact ⟨cli, http, mcp, response, hcli, hhttp, hmcp, hcliAnswer, hhttpAnswer, hmcpAnswer⟩

/-- The refusal of a body with faults. -/
def invalidRequest (faults : List String) : Failure :=
  .protocol .invalidFormat ("Invalid request: " ++ Text.join "; " faults) (some (.obj [("issues", .strings faults)]))

/-- As a flag, a field `project-path` is the field `project_path`; elsewhere it is no field that is looked at. -/
theorem hyphenated_responses_differ :
    let a : Analyzer Unit := ⟨fun _ => pure ⟨0, "", "", false⟩, ⟨"/", "/.refactor-gate"⟩, 1, 0, none, none⟩
    let w : World Unit := { disk := default, clock := 0, inner := () }
    let b : Record Json := [("project-path", .str "")]
    Json.ofText? (Json.obj b).compact = some (.obj b) ∧ ∃ cli http r s,
      Invocation.toRequest ⟨["analyze", "complexity"], [], b⟩ = .ok cli ∧
      HttpRequest.toRequest ⟨"POST", "/api/v1/analyze/complexity", [], (Json.obj b).compact, none⟩ = .ok http ∧
      ((a.router.handle cli).run w).1 = .ok r ∧ ((a.router.handle http).run w).1 = .ok s ∧ r ≠ s := by
  intro a w b
  have haddress : Address.ofText? "/api/v1/analyze/complexity" = some ⟨"/api/v1/analyze/complexity", "", []⟩ := by decide +kernel
  have hpath : "/api/v1/analyze/complexity" = Invocation.analyzePath ++ AnalysisKind.complexity.name := by decide +kernel
  obtain ⟨cli, hcli, hcliRoute, hcliBody⟩ := Invocation.exists_toRequest .complexity [] b
  obtain ⟨http, hhttp, hhttpRoute, hhttpBody⟩ := HttpRequest.exists_toRequest [] (Json.obj b).compact none haddress hpath
  -- the command gives the field, with an empty path
  have hbody : Invocation.body b = [("project_path", .str "")] := by
    have hname : Invocation.fieldOfFlag "project-path" = "project_path" := by decide +kernel
    simp only [Invocation.body, Invocation.assignments, b, List.map, hname]
    rfl
  have hbodyRounded : (Json.obj [("project_path", .str "")]).Rounded := ⟨trivial, trivial⟩
  have hcliChecked : cli.checked (Query.check (some .complexity)) =
      .error (invalidRequest ["project_path: String must contain at least 1 character(s)"]) := by
    rw [Request.checked, Request.bodyJson_eq (by rw [hcliBody, hbody, Json.ofText?_compact hbodyRounded])]
    rfl
  -- on the web the field is missing
  have hrounded : (Json.obj b).Rounded := ⟨trivial, trivial⟩
  have hhttpChecked : http.checked (Query.check (some .complexity)) = .error (invalidRequest ["project_path: Required"]) := by
    rw [Request.checked, Request.bodyJson_eq (by rw [hhttpBody, Json.ofText?_compact hrounded])]
    rfl
  have hhandler : (a.route .complexity).handler = checkedHandler (Query.check (some .complexity)) fun q _ => a.answer .complexity q := rfl
  have hcliAnswer := Router.run_handle (a.resolve_request hcliRoute) w
  have hhttpAnswer := Router.run_handle (a.resolve_request hhttpRoute) w
  rw [hhandler, run_checkedHandler_error hcliChecked] at hcliAnswer
  rw [hhandler, run_checkedHandler_error hhttpChecked] at hhttpAnswer
  refine ⟨Json.ofText?_compact hrounded, cli, http, _, _, hcli, hhttp, hcliAnswer, hhttpAnswer, ?_⟩
  decide +kernel

end Analyzer

end QualityGate
