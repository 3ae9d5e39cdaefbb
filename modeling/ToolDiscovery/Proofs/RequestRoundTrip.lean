import ToolDiscovery.Proofs.CheckedRequests
import ToolDiscovery.Proofs.Interleaving
import ToolDiscovery.Proofs.PrintedValues

/-!
# Requests are read back

A request that is printed passes the check of arguments and is decoded to the same request, so that
a call with it does what a search for it does, whether or not arguments are checked
(`SearchRequest.call_toJson`).
-/

namespace ToolDiscovery

namespace SearchRequest

open Json (Everywhere Exact Record)

variable {request : SearchRequest}

/-- The limit of a request, if it has one, is kept exactly. -/
def LimitFits (request : SearchRequest) : Prop := ∀ limit ∈ request.limit?, limit ≤ Json.maxInteger

/-- The mode of a request in JSON. -/
def modeJson (request : SearchRequest) : Json := (request.mode?.map SearchMode.toJson).getD .null

/-- The limit of a request in JSON. -/
def limitJson (request : SearchRequest) : Json :=
  (request.limit?.map fun limit => Json.integer limit).getD .null

theorem modeJson_cases (request : SearchRequest) :
    request.modeJson = .null ∨ ∃ mode : SearchMode, request.modeJson = mode.toJson := by
  unfold modeJson
  cases request.mode? with
  | none => exact .inl rfl
  | some mode => exact .inr ⟨mode, rfl⟩

theorem limitJson_cases (request : SearchRequest) :
    request.limitJson = .null ∨ ∃ n : Nat, request.limitJson = .integer n := by
  unfold limitJson
  cases request.limit? with
  | none => exact .inl rfl
  | some limit => exact .inr ⟨limit, rfl⟩

/-! ## The text of a request -/

theorem exact_modeJson (request : SearchRequest) : Everywhere Exact request.modeJson := by
  unfold modeJson
  cases request.mode? with
  | none => exact .of_no_parts ⟨trivial, nofun⟩ rfl
  | some mode => exact .of_no_parts ⟨trivial, nofun⟩ rfl

theorem exact_limitJson (h : request.LimitFits) : Everywhere Exact request.limitJson := by
  unfold limitJson
  cases hlimit : request.limit? with
  | none => exact .of_no_parts ⟨trivial, nofun⟩ rfl
  | some limit =>
      have hfits := h limit hlimit
      have hleast : Json.minInteger ≤ (limit : Int) := by
        unfold Json.minInteger
        omega
      exact .of_no_parts ⟨⟨hleast, Int.ofNat_le.mpr hfits⟩, nofun⟩ rfl

/-- The members of a request in the order in which they are printed. -/
def members (request : SearchRequest) : Json.Members :=
  [("query", .string request.query), ("mode", request.modeJson), ("limit", request.limitJson)]

theorem toJson_eq (request : SearchRequest) : request.toJson = .object request.members := rfl

theorem exact_members (h : request.LimitFits) :
    ∀ member ∈ request.members, Everywhere Exact member.2 := by
  simp only [members, List.forall_mem_cons, List.not_mem_nil]
  exact ⟨.of_no_parts ⟨trivial, nofun⟩ rfl, exact_modeJson request, exact_limitJson h, nofun⟩

/-- The parts of a request have no parts of their own, so that they are in canonical form. -/
theorem plain_members (request : SearchRequest) :
    ∀ member ∈ request.members, member.2.canonical = member.2 ∧ Schema.depthOf member.2 = 0 := by
  simp only [members, List.forall_mem_cons, List.not_mem_nil]
  refine ⟨⟨rfl, rfl⟩, ?_, ?_, nofun⟩
  · rcases request.modeJson_cases with hnull | ⟨mode, hmode⟩
    · rw [hnull]
      exact ⟨rfl, rfl⟩
    · rw [hmode]
      exact ⟨rfl, rfl⟩
  · rcases request.limitJson_cases with hnull | ⟨n, hn⟩
    · rw [hnull]
      exact ⟨rfl, rfl⟩
    · rw [hn]
      exact ⟨rfl, rfl⟩

theorem canonical_members (request : SearchRequest) :
    request.members.map (fun member => (member.1, member.2.canonical)) = request.members :=
  (List.map_congr_left fun member hmember => by rw [(request.plain_members member hmember).1]).trans
    (List.map_id' _)

theorem depthOf_toJson (request : SearchRequest) :
    Schema.depthOf (.object request.members) < Json.maxDepth := by
  refine Nat.lt_succ_of_le (Json.depthOf_le_iff.mpr fun part hpart => ?_)
  obtain ⟨member, hmember, rfl⟩ := List.mem_map.mp hpart
  rw [(request.plain_members member hmember).2]
  exact Nat.zero_le _

/-- A printed request is read with its members in ascending order. -/
theorem read_toJson (h : request.LimitFits) :
    Json.read request.toJson.compact = .ok (.object
      [("limit", request.limitJson), ("mode", request.modeJson),
        ("query", .string request.query)]) := by
  have hexact : Everywhere Exact (.object request.members) :=
    Everywhere.object_iff.mpr ⟨⟨trivial, nofun⟩, exact_members h⟩
  rw [toJson_eq, Json.read_compact hexact request.depthOf_toJson, Json.canonical_object,
    canonical_members]
  simp only [members, Json.ofMembers, Json.insertMember, List.foldl_cons, List.foldl_nil,
    String.reduceLT, if_true]

/-! ## Checked and decoded -/

/-- A printed request passes the check. -/
theorem checkArguments_toJson (h : request.LimitFits) :
    searchToolDefinition.checkArguments request.toJson.compact = .ok () := by
  refine ToolDefinition.checkArguments_eq_ok.mpr
    ⟨_, read_toJson h, check_of_allowed ⟨?_, ?_, ?_⟩ ?_ ?_⟩
  · exact ⟨request.query, rfl⟩
  · intro json hmember
    have hsame : json = request.modeJson := by simpa using hmember
    rw [hsame]
    exact request.modeJson_cases
  · intro json hmember
    have hsame : json = request.limitJson := by simpa using hmember
    rw [hsame]
    exact request.limitJson_cases.imp_right .inl
  · intro json hmember
    exact ⟨request.query, by simpa using hmember⟩
  · intro x hmember
    have hsame : Json.real x = request.limitJson := by simpa using hmember
    rcases request.limitJson_cases with hnull | ⟨n, hn⟩
    · rw [hnull] at hsame
      cases hsame
    · rw [hn] at hsame
      cases hsame

theorem mode_fromJson (request : SearchRequest) :
    (Json.Decoder.option SearchMode.decoder).fromJson request.modeJson = .ok request.mode? := by
  unfold modeJson
  cases request.mode? with
  | none => rfl
  | some mode =>
      cases mode with
      | bm25 | regex | hybrid => rfl

theorem limit_fromJson (h : request.LimitFits) :
    (Json.Decoder.option .size).fromJson request.limitJson = .ok request.limit? := by
  unfold limitJson
  cases hlimit : request.limit? with
  | none => rfl
  | some limit =>
      exact Json.except_bind_eq_ok.mpr ⟨limit, size_fromJson (h limit hlimit), rfl⟩

/-- The fields of a request are collected from its members. -/
theorem collect_members (h : request.LimitFits) :
    request.members.foldlM record.collectMember record.blank =
      .ok ⟨some request.query, some request.mode?, some request.limit?⟩ := by
  have hmode : record.collectMember ⟨some request.query, none, none⟩ ("mode", request.modeJson) =
      .ok ⟨some request.query, some request.mode?, none⟩ :=
    Json.except_bind_eq_ok.mpr
      ⟨_, Json.except_bind_eq_ok.mpr ⟨request.mode?, request.mode_fromJson, rfl⟩, rfl⟩
  have hlimit : record.collectMember ⟨some request.query, some request.mode?, none⟩
      ("limit", request.limitJson) =
        .ok ⟨some request.query, some request.mode?, some request.limit?⟩ :=
    Json.except_bind_eq_ok.mpr
      ⟨_, Json.except_bind_eq_ok.mpr ⟨request.limit?, limit_fromJson h, rfl⟩, rfl⟩
  rw [members, List.foldlM_cons]
  refine Json.except_bind_eq_ok.mpr ⟨⟨some request.query, none, none⟩, rfl, ?_⟩
  rw [List.foldlM_cons]
  refine Json.except_bind_eq_ok.mpr ⟨_, hmode, ?_⟩
  rw [List.foldlM_cons]
  exact Json.except_bind_eq_ok.mpr ⟨_, hlimit, rfl⟩

/-- A printed request is decoded to the same request. -/
theorem decodeArguments_toJson (h : request.LimitFits) :
    decodeArguments decoder request.toJson.compact = .ok request := by
  -- Arguments are decoded while they are read, so the members come in the order of the text.
  have hwritten := Json.writtenMembers_compact (exact_members h) request.depthOf_toJson
  rw [canonical_members] at hwritten
  have hplain : ∀ field ∈ record.fields, ∀ parts,
      (field.name, Json.object parts) ∉ request.members :=
    fun _ _ _ hmember => absurd (request.plain_members _ hmember).2 (Nat.succ_ne_zero _)
  exact decodeArguments_eq_ok.mpr
    (Record.decodeText_of_collect record_lawful.faithful hwritten hplain (collect_members h) rfl)

end SearchRequest

/-! ## Calls -/

variable {policy : Policy} {session : Session} {request : SearchRequest} {arguments : String}

/-- A call goes on with the session that its search goes on with. -/
theorem SearchAnswer.addTo_of_search {outcome : SearchOutcome}
    (hrequest : decodeArguments SearchRequest.decoder arguments = .ok request)
    (hsearch : policy.search request session = .ok outcome) :
    (ofCall policy session arguments).addTo session = outcome.session := by
  apply Session.eq_of_contains_iff
  intro name
  rw [contains_addTo (Session.le_refl session), Policy.search_contains hsearch,
    Policy.unlockedBy_of_ok hrequest (Policy.search_ok hsearch).1]

/-- A call of the tool tells what its search tells. -/
theorem searchTool_call_of_ok {outcome : SearchOutcome}
    (hrequest : decodeArguments SearchRequest.decoder arguments = .ok request)
    (hsearch : policy.search request session = .ok outcome) :
    searchTool.call arguments ⟨policy, session⟩ = (outcome.text, ⟨policy, outcome.session⟩) := by
  have htext : (SearchAnswer.ofCall policy session arguments).text = outcome.text := by
    simp only [SearchAnswer.ofCall, hrequest, hsearch]
  rw [← htext, ← SearchAnswer.addTo_of_search hrequest hsearch]
  rfl

/-- A call of the tool whose search fails tells the error and leaves the session as it is. -/
theorem searchTool_call_of_error {error : DiscoveryError}
    (hrequest : decodeArguments SearchRequest.decoder arguments = .ok request)
    (hsearch : policy.search request session = .error error) :
    searchTool.call arguments ⟨policy, session⟩ =
      ("Error: " ++ error.message, ⟨policy, session⟩) := by
  have hanswer : SearchAnswer.ofCall policy session arguments =
      { text := "Error: " ++ error.message } := by
    simp only [SearchAnswer.ofCall, hrequest, hsearch]
  have hcall : searchTool.call arguments ⟨policy, session⟩ =
      ((SearchAnswer.ofCall policy session arguments).text,
        ⟨policy, (SearchAnswer.ofCall policy session arguments).addTo session⟩) := rfl
  rw [hcall, hanswer]
  rfl

/-- Whether or not arguments are checked, a tool is called with arguments that pass the check. -/
theorem Toolbox.execute_of_checked {σ : Type} (box : Toolbox σ) {name : String} {tool : Tool σ}
    (hfind : box.find? name = some tool)
    (hchecked : tool.definition.checkArguments arguments = .ok ()) (state : σ) :
    box.execute name arguments state =
      (truncate (tool.call arguments state).1 box.maxResultBytes,
        (tool.call arguments state).2) := by
  rw [execute_of_some hfind, hchecked, ite_self]

namespace SearchRequest

/-- A printed request passes the check and is decoded to the same request. Whether or not arguments
are checked, the tool tells and unlocks what a search for the request tells and unlocks. -/
theorem execute_toJson (request : SearchRequest) (h : request.LimitFits) :
    searchToolDefinition.checkArguments request.toJson.compact = .ok () ∧
      decodeArguments decoder request.toJson.compact = .ok request ∧
      ∀ (box : Toolbox Conversation) (checks : Bool) (policy : Policy) (session : Session),
        box.find? searchToolName = some searchTool →
        (∀ outcome, policy.search request session = .ok outcome →
          { box with checksArguments := checks }.execute searchToolName request.toJson.compact
              ⟨policy, session⟩ =
            (truncate outcome.text box.maxResultBytes, ⟨policy, outcome.session⟩)) ∧
        ∀ error, policy.search request session = .error error →
          { box with checksArguments := checks }.execute searchToolName request.toJson.compact
              ⟨policy, session⟩ =
            (truncate ("Error: " ++ error.message) box.maxResultBytes, ⟨policy, session⟩) := by
  have hchecked := checkArguments_toJson h
  have hrequest := decodeArguments_toJson h
  refine ⟨hchecked, hrequest, fun box checks policy session hfind => ?_⟩
  have hexecute := Toolbox.execute_of_checked { box with checksArguments := checks } hfind hchecked
    ⟨policy, session⟩
  constructor
  · intro outcome hsearch
    rw [hexecute, searchTool_call_of_ok hrequest hsearch]
  · intro error hsearch
    rw [hexecute, searchTool_call_of_error hrequest hsearch]

/-- A request for the tool that sends messages. -/
def messageRequest : SearchRequest where
  query := "message"
  mode? := some .bm25
  limit? := some Json.maxInteger

theorem limitFits_messageRequest : messageRequest.LimitFits := by
  rintro limit ⟨⟩
  exact Nat.le_refl _

theorem execute_toJson_messageRequest :
    messageRequest.LimitFits ∧
      decodeArguments decoder messageRequest.toJson.compact = .ok messageRequest ∧
      ∀ checks, ∃ outcome, mailPolicy.search messageRequest {} = .ok outcome ∧
        ({ tools := [searchTool], checksArguments := checks } : Toolbox Conversation).execute
            searchToolName messageRequest.toJson.compact ⟨mailPolicy, {}⟩ =
          (truncate outcome.text 30000, ⟨mailPolicy, outcome.session⟩) := by
  obtain ⟨score, hhits⟩ := mailPolicy_hitsOf
  obtain ⟨-, hdecoded, hexecute⟩ := execute_toJson messageRequest limitFits_messageRequest
  refine ⟨limitFits_messageRequest, hdecoded, fun checks => ?_⟩
  have hsame : mailPolicy.hitsOf messageRequest = mailPolicy.hitsOf { query := "message" } := rfl
  obtain ⟨text, hsearch⟩ := Policy.search_of_hitsOf_ok (hsame.trans hhits) {}
  exact ⟨_, hsearch, (hexecute { tools := [searchTool] } checks mailPolicy {} rfl).1 _ hsearch⟩

end SearchRequest

end ToolDiscovery
