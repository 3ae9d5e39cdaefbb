import ToolDiscovery.Proofs.IndexOnce

/-!
# What a model sees in the course of a conversation

A host that hides its tools alternates searches with looks at what is shown, and keeps the session
that each search leaves behind. `Conversation.visible_after` says what a call adds to the visible
tools. By induction over the calls, `Conversation.filterTools_afterAll` says what is shown at any
time: what is always shown and what has been found.
-/

namespace ToolDiscovery

/-- What a host does in a conversation. -/
inductive HostCall where
  /-- Searches, and keeps the session if the search succeeds. -/
  | search (request : SearchRequest)
  /-- Asks what is to be shown of a catalog. -/
  | filterTools (catalog : List ToolDefinition)

namespace Conversation

/-- The conversation after a call. The policy is the one that the call leaves behind. -/
def after (conversation : Conversation) : HostCall → Conversation
  | .search request =>
    match Policy.searching request conversation.session conversation.policy with
    | .ok outcome policy => { policy, session := outcome.session }
    | .error _ policy => { conversation with policy }
  | .filterTools catalog =>
    let showing := Policy.showing catalog conversation.session
    { conversation with policy := showing.leaves conversation.policy }

/-- The conversation after several calls. -/
def afterAll (conversation : Conversation) (calls : List HostCall) : Conversation :=
  calls.foldl after conversation

/-- The names of the hits of a call, if it is a search that succeeds. -/
def found (conversation : Conversation) : HostCall → List String
  | .search request =>
    match conversation.policy.search request conversation.session with
    | .ok outcome => outcome.hits.map (·.name)
    | .error _ => []
  | .filterTools _ => []

/-- The names of the hits of all searches that succeed among several calls. -/
def foundByAll (conversation : Conversation) : List HostCall → List String
  | [] => []
  | call :: rest => conversation.found call ++ (conversation.after call).foundByAll rest

variable {conversation : Conversation} {indexed : IndexedCatalog} {call : HostCall} {name : String}

theorem afterAll_append (conversation : Conversation) (calls more : List HostCall) :
    conversation.afterAll (calls ++ more) = (conversation.afterAll calls).afterAll more :=
  List.foldl_append

theorem foundByAll_append (conversation : Conversation) (calls more : List HostCall) :
    conversation.foundByAll (calls ++ more) =
      conversation.foundByAll calls ++ (conversation.afterAll calls).foundByAll more := by
  induction calls generalizing conversation with
  | nil => rfl
  | cons call rest ih =>
      show conversation.found call ++ (conversation.after call).foundByAll (rest ++ more) = _
      rw [ih, ← List.append_assoc]
      rfl

theorem mem_found {request : SearchRequest} :
    name ∈ conversation.found (.search request) ↔
      ∃ outcome, conversation.policy.search request conversation.session = .ok outcome ∧
        ∃ hit ∈ outcome.hits, hit.name = name := by
  cases hsearch : conversation.policy.search request conversation.session with
  | error error => simp [found, hsearch]
  | ok outcome => simp [found, hsearch]

/-- What has been found are the hits of the searches that succeeded, each in the conversation as it
was at that time. -/
theorem mem_foundByAll {calls : List HostCall} :
    name ∈ conversation.foundByAll calls ↔
      ∃ earlier request later outcome, calls = earlier ++ .search request :: later ∧
        (conversation.afterAll earlier).policy.search request
          (conversation.afterAll earlier).session = .ok outcome ∧
        ∃ hit ∈ outcome.hits, hit.name = name := by
  constructor
  · intro h
    induction calls generalizing conversation with
    | nil => cases h
    | cons call rest ih =>
        rcases List.mem_append.mp h with hcall | hrest
        · cases call with
          | search request =>
              obtain ⟨outcome, hsearch, hhit⟩ := mem_found.mp hcall
              exact ⟨[], request, rest, outcome, rfl, hsearch, hhit⟩
          | filterTools catalog => cases hcall
        · obtain ⟨earlier, request, later, outcome, hcalls, hsearch, hhit⟩ := ih hrest
          rw [hcalls]
          exact ⟨call :: earlier, request, later, outcome, rfl, hsearch, hhit⟩
  · rintro ⟨earlier, request, later, outcome, rfl, hsearch, hhit⟩
    rw [foundByAll_append]
    refine List.mem_append_right _ (List.mem_append_left _ ?_)
    exact mem_found.mpr ⟨outcome, hsearch, hhit⟩

/-! ## What a call changes -/

theorem after_search_of_ok {request : SearchRequest} {outcome : SearchOutcome}
    (h : conversation.policy.search request conversation.session = .ok outcome) :
    conversation.after (.search request) = { conversation with session := outcome.session } := by
  simp only [after, Policy.searching_eq_search, h]

theorem after_search_of_error {request : SearchRequest} {error : DiscoveryError}
    (h : conversation.policy.search request conversation.session = .error error) :
    conversation.after (.search request) = conversation := by
  simp only [after, Policy.searching_eq_search, h]

/-- With an index, a look at what is shown changes nothing. -/
theorem after_filterTools (h : conversation.policy.indexed? = some indexed)
    (catalog : List ToolDefinition) : conversation.after (.filterTools catalog) = conversation := by
  simp only [after, Policy.leaves_showing, Change.leaves_of_ok (Policy.indexing_of_indexed h)]

/-- A policy that has an index stays as it is. -/
theorem after_policy (h : conversation.policy.indexed? = some indexed) (call : HostCall) :
    (conversation.after call).policy = conversation.policy := by
  cases call with
  | search request =>
      cases hsearch : conversation.policy.search request conversation.session with
      | error error => rw [after_search_of_error hsearch]
      | ok outcome => rw [after_search_of_ok hsearch]
  | filterTools catalog => rw [after_filterTools h]

theorem afterAll_policy (h : conversation.policy.indexed? = some indexed) (calls : List HostCall) :
    (conversation.afterAll calls).policy = conversation.policy := by
  induction calls generalizing conversation with
  | nil => rfl
  | cons call rest ih =>
      have hcall := after_policy h call
      show ((conversation.after call).afterAll rest).policy = conversation.policy
      rw [ih (hcall ▸ h), hcall]

/-- What is visible in a conversation. -/
def Visible (conversation : Conversation) (name : String) : Prop :=
  conversation.policy.isVisible conversation.session name

theorem visible_iff :
    conversation.Visible name ↔
      name ∈ conversation.policy.settings.alwaysInclude ∨ conversation.session.contains name :=
  Policy.isVisible_iff

/-- A call makes visible what it finds, and hides nothing. -/
theorem visible_after (h : conversation.policy.indexed? = some indexed) (call : HostCall) :
    (conversation.after call).Visible name ↔
      conversation.Visible name ∨ name ∈ conversation.found call := by
  cases call with
  | filterTools catalog =>
      rw [after_filterTools h]
      exact (or_iff_left List.not_mem_nil).symm
  | search request =>
      cases hsearch : conversation.policy.search request conversation.session with
      | error error =>
          rw [after_search_of_error hsearch, mem_found, hsearch]
          simp
      | ok outcome =>
          rw [after_search_of_ok hsearch, visible_iff, visible_iff, mem_found, hsearch,
            Policy.search_contains hsearch, mem_unlockable]
          simp only [Except.ok.injEq, exists_eq_left']
          tauto

/-- Any calls make visible what they find, and hide nothing. -/
theorem visible_afterAll (h : conversation.policy.indexed? = some indexed) (calls : List HostCall) :
    (conversation.afterAll calls).Visible name ↔
      conversation.Visible name ∨ name ∈ conversation.foundByAll calls := by
  induction calls generalizing conversation with
  | nil => exact (or_iff_left List.not_mem_nil).symm
  | cons call rest ih =>
      have hnext : (conversation.after call).policy.indexed? = some indexed := by
        rw [after_policy h, h]
      show ((conversation.after call).afterAll rest).Visible name ↔
        _ ∨ name ∈ conversation.found call ++ (conversation.after call).foundByAll rest
      rw [ih hnext, visible_after h, List.mem_append, or_assoc]

/-! ## What is shown -/

/-- A conversation in which nothing has been called yet. -/
def start (policy : Policy) : Conversation where
  policy := policy
  session := policy.initialSession

/-- What is shown of a catalog in a conversation. -/
def shown (conversation : Conversation) (catalog : List ToolDefinition) : List ToolDefinition :=
  match conversation.policy.filterTools catalog conversation.session with
  | .ok (visible, _) => visible.tools
  | .error _ => []

variable {policy : Policy} {catalog : List ToolDefinition} {tool : ToolDefinition}

/-- At first only what is always shown is visible. -/
theorem visible_start : (start policy).Visible name ↔ name ∈ policy.settings.alwaysInclude := by
  rw [visible_iff]
  exact or_iff_left_of_imp Session.contains_ofNames.mp

/-- The tools with these names, in the order of the catalog. The search itself is left out. -/
def namedTools (names found : List String) (catalog : List ToolDefinition) : List ToolDefinition :=
  catalog.filter fun tool => tool.name ≠ searchToolName ∧ (tool.name ∈ names ∨ tool.name ∈ found)

/-- What a policy that hides its tools shows after any calls. -/
theorem filterTools_afterAll (h : policy.indexed? = some indexed)
    (hdeferred : indexed.isDeferred = true) (calls : List HostCall)
    (catalog : List ToolDefinition) :
    policy.filterTools catalog ((start policy).afterAll calls).session =
      .ok ({
        tools := namedTools policy.settings.alwaysInclude ((start policy).foundByAll calls) catalog
          ++ [searchToolDefinition]
        promptAddition? := some searchPrompt }, policy) := by
  have hpolicy : ((start policy).afterAll calls).policy = policy := afterAll_policy h calls
  have htools : policy.shownTools indexed.isDeferred catalog
      ((start policy).afterAll calls).session =
      namedTools policy.settings.alwaysInclude ((start policy).foundByAll calls) catalog := by
    rw [Policy.shownTools, searchableTools, List.filter_filter, namedTools]
    refine List.filter_congr fun tool _ => ?_
    have hvisible : policy.isVisible ((start policy).afterAll calls).session tool.name ↔
        tool.name ∈ policy.settings.alwaysInclude ∨
          tool.name ∈ (start policy).foundByAll calls := by
      have hall : ((start policy).afterAll calls).Visible tool.name ↔
          (start policy).Visible tool.name ∨ tool.name ∈ (start policy).foundByAll calls :=
        visible_afterAll h calls
      rw [visible_start, Visible, hpolicy] at hall
      exact hall
    rw [Bool.eq_iff_iff]
    simp [hdeferred, hvisible, and_comm]
  rw [Policy.filterTools_of_indexed h, htools, hdeferred]
  rfl

theorem mem_namedTools {names found : List String} :
    tool ∈ namedTools names found catalog ↔
      tool ∈ catalog ∧ tool.name ≠ searchToolName ∧ (tool.name ∈ names ∨ tool.name ∈ found) := by
  simp [namedTools]

/-- What is shown is the search and the tools that are always shown or have been found. -/
theorem mem_shown (h : policy.indexed? = some indexed) (hdeferred : indexed.isDeferred = true)
    (calls : List HostCall) :
    tool ∈ ((start policy).afterAll calls).shown catalog ↔
      tool = searchToolDefinition ∨ tool ∈ catalog ∧ tool.name ≠ searchToolName ∧
        (tool.name ∈ policy.settings.alwaysInclude ∨
          tool.name ∈ (start policy).foundByAll calls) := by
  have hpolicy : ((start policy).afterAll calls).policy = policy := afterAll_policy h calls
  rw [shown, hpolicy, filterTools_afterAll h hdeferred]
  show tool ∈ namedTools _ _ catalog ++ [searchToolDefinition] ↔ _
  rw [List.mem_append, mem_namedTools, List.mem_singleton, or_comm]

/-- If tools are hidden, then after any calls exactly those are shown that are always shown or that
a search has found, in the order of the catalog and followed by the search. So a tool that has just
been found is shown next, one that has been shown is shown again wherever it is in the catalog, and
one that was not shown before has been found since. -/
theorem shown_iff_found (h : policy.indexed? = some indexed) (hdeferred : indexed.isDeferred = true)
    (calls : List HostCall) (catalog : List ToolDefinition) :
    let now := (start policy).afterAll calls
    now.policy.filterTools catalog now.session =
      .ok ({
        tools := catalog.filter (fun tool => tool.name ≠ searchToolName ∧
          (tool.name ∈ policy.settings.alwaysInclude ∨
            tool.name ∈ (start policy).foundByAll calls)) ++ [searchToolDefinition]
        promptAddition? := some searchPrompt }, policy) ∧
    (∀ name, name ∈ (start policy).foundByAll calls ↔
      ∃ earlier request later outcome, calls = earlier ++ .search request :: later ∧
        policy.search request ((start policy).afterAll earlier).session = .ok outcome ∧
        ∃ hit ∈ outcome.hits, hit.name = name) ∧
    (∀ request outcome, policy.search request now.session = .ok outcome →
      ∀ tool ∈ catalog, tool.name ≠ searchToolName → (∃ hit ∈ outcome.hits, hit.name = tool.name) →
        tool ∈ (now.after (.search request)).shown catalog) ∧
    (∀ more other, ∀ tool ∈ now.shown catalog, tool ∈ other →
      tool ∈ (now.afterAll more).shown other) ∧
    ∀ more, ∀ tool ∈ (now.afterAll more).shown catalog, tool ∉ now.shown catalog →
      tool.name ∈ now.foundByAll more := by
  intro now
  have hpolicy (calls : List HostCall) : ((start policy).afterAll calls).policy = policy :=
    afterAll_policy h calls
  have hmore (more : List HostCall) : now.afterAll more = (start policy).afterAll (calls ++ more) :=
    (afterAll_append (start policy) calls more).symm
  have hfound (more : List HostCall) : (start policy).foundByAll (calls ++ more) =
      (start policy).foundByAll calls ++ now.foundByAll more :=
    foundByAll_append (start policy) calls more
  refine ⟨?_, fun name => ?_, fun request outcome hsearch tool htool hname hhit => ?_,
    fun more other tool htool hother => ?_, fun more tool htool hnew => ?_⟩
  · rw [hpolicy]
    exact filterTools_afterAll h hdeferred calls catalog
  · rw [mem_foundByAll]
    simp only [hpolicy]
  · have hnext : now.after (.search request) =
        (start policy).afterAll (calls ++ [.search request]) := hmore [.search request]
    -- The search is one more call, and its hits are what it adds to the names found before.
    have hmem : tool.name ∈ now.foundByAll [.search request] := by
      refine List.mem_append_left _ (mem_found.mpr ⟨outcome, ?_, hhit⟩)
      rw [hpolicy]
      exact hsearch
    rw [hnext, mem_shown h hdeferred, hfound]
    exact .inr ⟨htool, hname, .inr (List.mem_append_right _ hmem)⟩
  · rw [hmore, mem_shown h hdeferred, hfound]
    rcases (mem_shown h hdeferred calls).mp htool with hsearch | ⟨-, hname, hshown⟩
    · exact .inl hsearch
    · exact .inr ⟨hother, hname, hshown.imp_right (List.mem_append_left _)⟩
  · rw [hmore, mem_shown h hdeferred, hfound] at htool
    -- A tool that was not shown before can only have become visible by what was found since.
    rcases htool with hsearch | ⟨hcatalog, hname, hnames | hnames⟩
    · exact absurd ((mem_shown h hdeferred calls).mpr (.inl hsearch)) hnew
    · exact absurd ((mem_shown h hdeferred calls).mpr (.inr ⟨hcatalog, hname, .inl hnames⟩)) hnew
    · rcases List.mem_append.mp hnames with hbefore | hsince
      · exact absurd ((mem_shown h hdeferred calls).mpr
          (.inr ⟨hcatalog, hname, .inr hbefore⟩)) hnew
      · exact hsince

/-- A hidden tool is shown once a search has found it, and from then on. -/
theorem shown_once_found :
    let found := (start mailPolicy).after (.search { query := "message" })
    (start mailPolicy).shown [mailTool] = [searchToolDefinition] ∧
      mailTool ∈ found.shown [mailTool] ∧
      ∀ calls, mailTool ∈ (found.afterAll calls).shown [mailTool] := by
  intro found
  have hindexed : mailPolicy.indexed? = some mailCatalog := rfl
  have hdeferred : mailCatalog.isDeferred = true := rfl
  have hname : mailTool.name ≠ searchToolName := by decide
  obtain ⟨score, hhits⟩ := mailPolicy_hitsOf
  obtain ⟨text, hsearch⟩ := Policy.search_of_hitsOf_ok hhits (start mailPolicy).session
  obtain ⟨hfirst, -, hnext, -⟩ := shown_iff_found hindexed hdeferred [] [mailTool]
  obtain ⟨-, -, -, hlater, -⟩ :=
    shown_iff_found hindexed hdeferred [.search { query := "message" }] [mailTool]
  have hshown : mailTool ∈ found.shown [mailTool] :=
    hnext _ _ hsearch mailTool List.mem_cons_self hname ⟨_, List.mem_cons_self, rfl⟩
  refine ⟨?_, hshown, fun calls => hlater calls [mailTool] mailTool hshown List.mem_cons_self⟩
  have hnone : mailTool.name ∉ mailPolicy.settings.alwaysInclude := List.not_mem_nil
  unfold shown
  rw [show start mailPolicy = (start mailPolicy).afterAll [] from rfl, hfirst]
  simp [hnone, foundByAll]

end Conversation

end ToolDiscovery
