import ToolDiscovery.Proofs.SearchOutcomes

/-!
# What a session changes

A larger session shows more of a catalog: `Policy.shownTools_sublist_of_le`. The tools that are
always shown may as well be in the session or not (`Policy.seeded`). Neither what is shown nor what
a search tells depends on it: `Policy.search_seeded`. `Policy.filterTools_by_session` puts this
together.
-/

namespace ToolDiscovery

namespace Policy

/-- A session in which the tools that are always shown have been unlocked, too. -/
def seeded (policy : Policy) (session : Session) : Session :=
  session.unlockMany policy.settings.alwaysInclude

variable {policy : Policy} {indexed : IndexedCatalog} {catalog : List ToolDefinition}
  {session larger : Session} {request : SearchRequest} {name : String}

/-- A new session is an empty one that has been seeded. -/
theorem seeded_empty : policy.seeded {} = policy.initialSession := rfl

theorem contains_seeded :
    (policy.seeded session).contains name ↔
      session.contains name ∨ name ∈ policy.settings.alwaysInclude :=
  Session.contains_unlockMany

/-! ## What is shown -/

theorem isVisible_of_le (hle : session ≤ larger) (h : policy.isVisible session name) :
    policy.isVisible larger name :=
  isVisible_iff.mpr ((isVisible_iff.mp h).imp_right (hle name))

theorem isVisible_seeded :
    policy.isVisible (policy.seeded session) name = policy.isVisible session name := by
  rw [Bool.eq_iff_iff, isVisible_iff, isVisible_iff, contains_seeded]
  tauto

theorem mem_shownTools {isDeferred : Bool} {tool : ToolDefinition} :
    tool ∈ policy.shownTools isDeferred catalog session ↔
      tool ∈ catalog ∧ tool.name ≠ searchToolName ∧
        (isDeferred = false ∨ policy.isVisible session tool.name) := by
  rw [shownTools, List.mem_filter, searchableTools, List.mem_filter]
  simp [and_assoc]

theorem shownTools_sublist (isDeferred : Bool) :
    (policy.shownTools isDeferred catalog session).Sublist (searchableTools catalog) :=
  List.filter_sublist

/-- A larger session shows more, in the same order. -/
theorem shownTools_sublist_of_le (isDeferred : Bool) (hle : session ≤ larger) :
    (policy.shownTools isDeferred catalog session).Sublist
      (policy.shownTools isDeferred catalog larger) := by
  refine List.monotone_filter_right _ fun tool htool => ?_
  rw [Bool.or_eq_true] at htool ⊢
  exact htool.imp_right (isVisible_of_le hle)

theorem shownTools_seeded (isDeferred : Bool) :
    policy.shownTools isDeferred catalog (policy.seeded session) =
      policy.shownTools isDeferred catalog session := by
  simp only [shownTools, isVisible_seeded]

/-- If tools are not hidden, all are shown in every session. -/
theorem shownTools_direct : policy.shownTools false catalog session = searchableTools catalog := by
  simp [shownTools]

/-! ## What is found -/

/-- Hits that are always shown are passed over, whether or not the session contains them. -/
theorem unlockHits_seeded (hits : List Hit) :
    unlockHits policy.settings.alwaysInclude hits (policy.seeded session) =
      (policy.seeded (unlockHits policy.settings.alwaysInclude hits session).1,
        (unlockHits policy.settings.alwaysInclude hits session).2) := by
  refine Prod.ext ?_ ?_
  · apply Session.eq_of_contains_iff
    intro name
    rw [contains_unlockHits, contains_seeded, contains_seeded, contains_unlockHits]
    exact or_right_comm
  · show (unlockHits policy.settings.alwaysInclude hits (policy.seeded session)).2 = _
    rw [unlockHits_names, unlockHits_names, newNames, newNames]
    congr 1
    refine List.filter_congr fun name _ => ?_
    rw [← Bool.not_or, ← Bool.not_or]
    exact congrArg not isVisible_seeded

/-- A search in a seeded session has the same outcome, and goes on with a seeded session. -/
theorem search_seeded (policy : Policy) (request : SearchRequest) (session : Session) :
    policy.search request (policy.seeded session) =
      (policy.search request session).map fun outcome =>
        { outcome with session := policy.seeded outcome.session } := by
  rw [search_eq, search_eq]
  cases policy.hitsOf request with
  | error error => rfl
  | ok hits =>
      show Except.ok _ = Except.ok _
      simp only [outcomeWith, outcomeOf, unlockHits_seeded]

/-! ## Both together -/

theorem isDeferred?_of_indexed (h : policy.indexed? = some indexed) :
    policy.isDeferred? = some indexed.isDeferred := by
  rw [isDeferred?, h]
  rfl

/-- A session only decides which tools of a catalog are shown before the search itself. A larger one
shows more of them, and none matters if tools are not hidden. Whether it contains the tools that are
always shown cannot be told by what is shown or found. -/
theorem filterTools_by_session (h : policy.indexed? = some indexed) (hle : session ≤ larger)
    (catalog : List ToolDefinition) :
    ∃ shown shownLater,
      policy.filterTools catalog session = .ok (shown, policy) ∧
      policy.filterTools catalog larger = .ok (shownLater, policy) ∧
      (∃ kept, shown.tools = kept ++ [searchToolDefinition] ∧
        kept.Sublist (catalog.filter (·.name ≠ searchToolName)) ∧
        kept = (catalog.filter (·.name ≠ searchToolName)).filter fun tool =>
          policy.isDeferred? = some false ∨ tool.name ∈ policy.settings.alwaysInclude ∨
            session.contains tool.name) ∧
      shown.tools.filter (·.name = searchToolName) = [searchToolDefinition] ∧
      shown.tools.Sublist shownLater.tools ∧
      (shown.promptAddition?.isSome ↔ policy.isDeferred? = some true) ∧
      (policy.isDeferred? = some false →
        ∀ other, policy.filterTools catalog other = .ok (shown, policy)) ∧
      policy.filterTools catalog (policy.seeded session) = .ok (shown, policy) ∧
      ∀ request, policy.search request (policy.seeded session) =
        (policy.search request session).map fun outcome =>
          { outcome with session := policy.seeded outcome.session } := by
  have hdeferred := isDeferred?_of_indexed h
  refine ⟨_, _, filterTools_of_indexed h catalog session, filterTools_of_indexed h catalog larger,
    ⟨_, rfl, shownTools_sublist _, ?_⟩, ?_, ?_, ?_, fun hdirect other => ?_, ?_,
    fun request => search_seeded policy request session⟩
  · refine List.filter_congr fun tool _ => ?_
    rw [Bool.eq_iff_iff, Bool.or_eq_true, Bool.not_eq_true', isVisible_iff, decide_eq_true_iff,
      hdeferred, Option.some.injEq]
  · have hnone : (policy.shownTools indexed.isDeferred catalog session).filter
        (·.name = searchToolName) = [] := by
      rw [List.filter_eq_nil_iff]
      intro tool htool
      rw [decide_eq_true_iff]
      exact (mem_shownTools.mp htool).2.1
    rw [List.filter_append, hnone]
    rfl
  · exact (shownTools_sublist_of_le _ hle).append_right _
  · rw [hdeferred, Option.some.injEq]
    cases indexed.isDeferred <;> simp
  · rw [hdeferred] at hdirect
    rw [filterTools_of_indexed h, Option.some.inj hdirect, shownTools_direct, shownTools_direct]
  · rw [filterTools_of_indexed h, shownTools_seeded]

/-- A tool that is always shown is shown before and after it has been found. -/
theorem filterTools_by_session_mail :
    let policy : Policy :=
      { mailPolicy with settings := { mailPolicy.settings with alwaysInclude := [mailTool.name] } }
    let catalog := [searchToolDefinition, mailTool, mailTool]
    let found := Session.ofNames ["other", mailTool.name]
    ({} : Session) ≤ found ∧ ∃ shown shownLater,
      policy.filterTools catalog {} = .ok (shown, policy) ∧
      policy.filterTools catalog found = .ok (shownLater, policy) ∧
      shown.tools = [mailTool, mailTool, searchToolDefinition] ∧
      shown.tools.Sublist shownLater.tools ∧
      policy.filterTools catalog policy.initialSession = .ok (shown, policy) := by
  intro policy catalog found
  have hindexed : policy.indexed? = some mailCatalog := rfl
  have hle : ({} : Session) ≤ found := by
    intro name hname
    cases hname
  obtain ⟨shown, shownLater, hshown, hlater, ⟨kept, htools, -, hkept⟩, -, hsublist, -, -, hseeded,
    -⟩ := filterTools_by_session hindexed hle catalog
  rw [seeded_empty] at hseeded
  refine ⟨hle, shown, shownLater, hshown, hlater, ?_, hsublist, hseeded⟩
  rw [htools, hkept]
  rfl

end Policy

end ToolDiscovery
