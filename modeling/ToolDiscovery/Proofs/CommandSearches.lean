import ToolDiscovery.CommandLine.Run
import ToolDiscovery.Proofs.CatalogRoundTrip
import ToolDiscovery.Proofs.IndexOnce
import ToolDiscovery.Proofs.RequestRoundTrip

/-!
# Searches from the command line

A search from the command line is a call of the search tool in a session that has searched for
nothing yet: `Invocation.search_result` says that both tell the same, and that the program reports
as unlocked what the call adds to its session.
-/

namespace ToolDiscovery

/-- Unlocking reports each name once. -/
theorem nodup_unlockHits (alwaysInclude : List String) (hits : List Hit) (session : Session) :
    (unlockHits alwaysInclude hits session).2.Nodup := by
  induction hits generalizing session with
  | nil => exact .nil
  | cons hit rest ih =>
      rw [unlockHits]
      by_cases hknown : alwaysInclude.contains hit.name || session.contains hit.name
      · rw [if_pos hknown]
        exact ih session
      · rw [if_neg hknown]
        refine List.nodup_cons.mpr ⟨fun hmem => ?_, ih (session.unlock hit.name)⟩
        exact (mem_unlockHits_names.mp hmem).1 (Session.contains_unlock.mpr (.inl rfl))

namespace Policy

variable {policy start : Policy} {catalog : List ToolDefinition} {indexed : IndexedCatalog}
  {request : SearchRequest} {session : Session} {outcome : SearchOutcome}

/-- What a search reports as unlocked is what its session has more than the one before, each name
once. -/
theorem unlocked_of_search (h : policy.search request session = .ok outcome) :
    outcome.unlocked.Nodup ∧ ∀ name, name ∈ outcome.unlocked ↔
      outcome.session.contains name ∧ ¬session.contains name := by
  have hunlock := (search_ok h).2
  have hnames : outcome.unlocked =
      (unlockHits policy.settings.alwaysInclude outcome.hits session).2 := by rw [hunlock]
  rw [hnames]
  refine ⟨nodup_unlockHits _ _ _, fun name => ?_⟩
  rw [mem_unlockHits_names, search_contains h]
  tauto

/-- Indexing a catalog changes no settings, so that sessions begin as before. -/
theorem initialSession_of_ensureIndex (h : start.ensureIndex catalog = .ok (indexed, policy)) :
    policy.initialSession = start.initialSession := by
  cases hindexed : start.indexed? with
  | some kept =>
      rw [ensureIndex_of_indexed hindexed] at h
      cases h
      rfl
  | none =>
      obtain ⟨-, rfl⟩ := eq_of_ensureIndex hindexed h
      rfl

theorem filterTools_of_ensureIndex (h : start.ensureIndex catalog = .ok (indexed, policy))
    (session : Session) : ∃ visible, start.filterTools catalog session = .ok (visible, policy) := by
  obtain ⟨visible, hshowing⟩ := showing_of_indexing (Change.result_eq_ok.mp h) session
  exact ⟨visible, Change.result_of_ok hshowing⟩

end Policy

namespace CommandLine

variable {tools : FileText} {settings? : Option FileText} {contextWindow? : Option Nat}
  {settings : Settings} {catalog : List ToolDefinition} {start policy : Policy}
  {indexed : IndexedCatalog} {request : SearchRequest} {json : Bool}

/-- The settings of a file, or the plain ones where no file is given. -/
def settingsOf (settings? : Option FileText) : Except DiscoveryError Settings :=
  (settings?.map Settings.load).getD (.ok {})

theorem policyFor_of_settings (hsettings : settingsOf settings? = .ok settings)
    (hpolicy : Policy.ofSettings settings contextWindow? = .ok start) :
    policyFor settings? contextWindow? = .ok start := by
  cases settings? with
  | none =>
      cases hsettings
      exact hpolicy
  | some file => exact Json.except_bind_eq_ok.mpr ⟨settings, hsettings, hpolicy⟩

/-- What a search shows is made of its outcome in the session with which a conversation begins. -/
theorem answer_search (hcatalog : Catalog.load tools = .ok catalog)
    (hsettings : settingsOf settings? = .ok settings)
    (hpolicy : Policy.ofSettings settings contextWindow? = .ok start)
    (hindex : start.ensureIndex catalog = .ok (indexed, policy)) :
    answer tools settings? contextWindow? (.search request json) =
      (policy.search request policy.initialSession).map (showSearch json) := by
  obtain ⟨visible, hvisible⟩ := Policy.filterTools_of_ensureIndex hindex start.initialSession
  unfold answer
  rw [hcatalog, policyFor_of_settings hsettings hpolicy]
  show (start.filterTools catalog start.initialSession >>= _) = _
  rw [hvisible, Policy.initialSession_of_ensureIndex hindex]
  rfl

end CommandLine

namespace Invocation

variable {invocation : Invocation} {tools : FileText} {settings? : Option FileText}
  {settings : Settings} {catalog : List ToolDefinition} {start policy : Policy}
  {indexed : IndexedCatalog} {request : SearchRequest} {json : Bool}

/-- A search from the command line shows what a call of the tool tells for the same request, under a
policy that has indexed the catalog and in the session with which a conversation begins. It fails
where the search does. In JSON it shows the hits of that search and the names that the call adds to
its session. -/
theorem search_result (hcommand : invocation.command = .search request json)
    (hlimit : request.LimitFits) (hcatalog : Catalog.load tools = .ok catalog)
    (hsettings : CommandLine.settingsOf settings? = .ok settings)
    (hpolicy : Policy.ofSettings settings invocation.contextWindow? = .ok start)
    (hindex : start.ensureIndex catalog = .ok (indexed, policy)) :
    let session := policy.initialSession
    let call := searchTool.call request.toJson.compact ⟨policy, session⟩
    let result := invocation.result tools settings?
    (∀ outcome, policy.search request session = .ok outcome →
      result = ⟨0, (if json then (CommandLine.searchJson outcome).pretty else call.1) ++ "\n", ""⟩ ∧
        outcome.unlocked.Nodup ∧
        ∀ name, name ∈ outcome.unlocked ↔
          call.2.session.contains name ∧ ¬session.contains name) ∧
      (∀ error, policy.search request session = .error error →
        result = ⟨1, "", call.1 ++ "\n"⟩ ∧ call.2.session = session) ∧
      (result.exitCode = 1 ↔ ∃ error, policy.search request session = .error error) := by
  intro session call result
  have hrequest := SearchRequest.decodeArguments_toJson hlimit
  have hanswer : result = .ofRun ((policy.search request session).map
      (CommandLine.showSearch json)) := by
    rw [← CommandLine.answer_search hcatalog hsettings hpolicy hindex, ← hcommand]
    rfl
  -- Whatever the search gives, the call and the command are both made of it.
  have hok {outcome : SearchOutcome} (hsearch : policy.search request session = .ok outcome) :
      call = (outcome.text, ⟨policy, outcome.session⟩) ∧
        result = ⟨0, CommandLine.showSearch json outcome ++ "\n", ""⟩ := by
    refine ⟨searchTool_call_of_ok hrequest hsearch, ?_⟩
    rw [hanswer, hsearch]
    rfl
  have herror {error : DiscoveryError} (hsearch : policy.search request session = .error error) :
      call = ("Error: " ++ error.message, ⟨policy, session⟩) ∧
        result = ⟨1, "", "Error: " ++ error.message ++ "\n"⟩ := by
    refine ⟨searchTool_call_of_error hrequest hsearch, ?_⟩
    rw [hanswer, hsearch]
    rfl
  refine ⟨fun outcome hsearch => ?_, fun error hsearch => ?_, ?_⟩
  · obtain ⟨hcall, hresult⟩ := hok hsearch
    rw [hresult, hcall]
    exact ⟨rfl, Policy.unlocked_of_search hsearch⟩
  · obtain ⟨hcall, hresult⟩ := herror hsearch
    rw [hresult, hcall]
    exact ⟨rfl, rfl⟩
  · cases hsearch : policy.search request session with
    | ok outcome =>
        rw [(hok hsearch).2]
        exact iff_of_false (show ¬(0 : UInt8) = 1 by decide) nofun
    | error error =>
        rw [(herror hsearch).2]
        exact iff_of_true rfl ⟨error, rfl⟩

/-- A search for the tool that sends messages. -/
def messageSearch : Invocation where
  toolsPath := "tools.json"
  settingsPath? := none
  contextWindow? := none
  command := .search SearchRequest.messageRequest false

theorem load_mailTool :
    Catalog.load (.ok (Catalog.listJson [mailTool]).compact) = .ok [mailTool] := by
  have hexact : Catalog.ExactParameters [mailTool] :=
    List.forall_mem_singleton.mpr Catalog.emptyParameters_exact
  exact Json.except_bind_eq_ok.mpr
    ⟨_, rfl, Catalog.parse_of_printed ⟨by decide, by decide⟩ hexact (by decide)⟩

theorem search_result_messageSearch :
    let start : Policy := { settings := {}, contextWindow? := none }
    let policy := start.indexedWith [mailTool]
    let call := searchTool.call SearchRequest.messageRequest.toJson.compact
      ⟨policy, policy.initialSession⟩
    messageSearch.result (.ok (Catalog.listJson [mailTool]).compact) none =
        ⟨0, call.1 ++ "\n", ""⟩ ∧
      call.2.session.contains mailTool.name := by
  intro start policy call
  have hpolicy : Policy.ofSettings {} none = .ok start := rfl
  have hindex : start.ensureIndex [mailTool] = .ok (start.indexOf [mailTool], policy) :=
    Policy.ensureIndex_of_fits rfl (by decide)
  have hcommand : messageSearch.command = .search SearchRequest.messageRequest false := rfl
  have hsettings : CommandLine.settingsOf none = .ok {} := rfl
  obtain ⟨hfound, -, -⟩ := search_result hcommand SearchRequest.limitFits_messageRequest
    load_mailTool hsettings hpolicy hindex
  -- The search finds what it finds under the settings that hide the tool in any case.
  obtain ⟨score, hhits⟩ := mailPolicy_hitsOf
  have hsame : policy.hitsOf SearchRequest.messageRequest =
    mailPolicy.hitsOf { query := "message" } := rfl
  obtain ⟨text, hsearch⟩ := Policy.search_of_hitsOf_ok (hsame.trans hhits) policy.initialSession
  obtain ⟨hresult, -, hunlocked⟩ := hfound _ hsearch
  have hnew : mailTool.name ∈ unlockable [] [⟨mailTool.name, score⟩] :=
    mem_unlockable.mpr ⟨List.not_mem_nil, _, List.mem_singleton_self _, rfl⟩
  exact ⟨hresult, ((hunlocked _).mp (mem_unlockHits_names.mpr ⟨by decide, hnew⟩)).1⟩

end Invocation

end ToolDiscovery
