import ToolDiscovery.Proofs.IndexBatches
import ToolDiscovery.Proofs.IndexOnce

/-!
# What comes of a search

A search passes over its hits once, and reports a name where it meets it for the first time unless
the tool could be seen before: `unlockHits_names`. All that it reports is in the session to go on
with, and so the same search finds nothing new in that session or any later one:
`Policy.search_outcome`.
-/

namespace ToolDiscovery

/-- The names of the hits that are neither always shown nor in the session, in the order of the hits
and each where it occurs first. -/
def newNames (alwaysInclude : List String) (session : Session) (hits : List Hit) : List String :=
  ((hits.map (·.name)).filter
    fun name => !alwaysInclude.contains name && !session.contains name).eraseDups

variable {alwaysInclude : List String} {session : Session} {hits : List Hit}

/-! ## Unlocking hits in their order -/

/-- The names that unlocking reports are the new ones. -/
theorem unlockHits_names (alwaysInclude : List String) (hits : List Hit) (session : Session) :
    (unlockHits alwaysInclude hits session).2 = newNames alwaysInclude session hits := by
  induction hits generalizing session with
  | nil => rfl
  | cons hit rest ih =>
      rw [unlockHits, newNames, List.map_cons, List.filter_cons]
      by_cases hseen : alwaysInclude.contains hit.name || session.contains hit.name
      · rw [if_pos hseen, ← Bool.not_or, hseen, Bool.not_true, if_neg Bool.false_ne_true]
        exact ih session
      · rw [if_neg hseen, ← Bool.not_or, Bool.eq_false_of_not_eq_true hseen, Bool.not_false,
          if_pos rfl, List.eraseDups_cons, List.filter_filter]
        -- Behind the hit its name is no longer new, because it has been unlocked.
        show hit.name :: (unlockHits alwaysInclude rest (session.unlock hit.name)).2 = _
        rw [ih, newNames]
        congr 2
        refine List.filter_congr fun name _ => ?_
        have hunlock : (session.unlock hit.name).contains name = false ↔
            name ≠ hit.name ∧ session.contains name = false := by
          rw [← Bool.not_eq_true, Session.contains_unlock, not_or, Bool.not_eq_true]
        rw [Bool.eq_iff_iff]
        simp [hunlock, and_left_comm]

/-- The session to go on with is the one before with the names that are reported. -/
theorem unlockHits_session (alwaysInclude : List String) (hits : List Hit) (session : Session) :
    (unlockHits alwaysInclude hits session).1 =
      session.unlockMany (unlockHits alwaysInclude hits session).2 := by
  apply Session.eq_of_contains_iff
  intro name
  rw [contains_unlockHits, Session.contains_unlockMany, mem_unlockHits_names]
  tauto

/-! ## Hits of an index -/

namespace CatalogIndex

variable {index : CatalogIndex} {query : String} {mode : SearchMode} {limit : Nat}
  {ranked : List (Scored Float)} {hits : List Hit} {hit : Hit}

theorem ranking_length_le (h : index.ranking query mode limit = .ok ranked) :
    ranked.length ≤ limit := by
  obtain rfl | rfl | rfl := ranking_ok h
  · exact Scored.length_best_le
  · exact Scored.length_best_le
  · exact Scored.length_best_le

/-- A search has at most as many hits as its limit says, and finds tools of the index only. -/
theorem search_ok (h : index.search query mode limit = .ok hits) :
    hits.length ≤ limit ∧ ∀ hit ∈ hits, hit.name ∈ index.names := by
  rw [search_eq_ranking] at h
  cases hranked : index.ranking query mode limit with
  | error error =>
      rw [hranked] at h
      cases h
  | ok ranked =>
      rw [hranked] at h
      cases h
      refine ⟨?_, fun hit hhit => ?_⟩
      · exact Nat.le_trans (List.length_filterMap_le _ _) (ranking_length_le hranked)
      · obtain ⟨s, -, hentry⟩ := List.mem_filterMap.mp hhit
        obtain ⟨entry, hat, rfl⟩ := Option.map_eq_some_iff.mp hentry
        exact List.mem_map_of_mem (Array.mem_toList_iff.mpr (Array.mem_of_getElem? hat))

end CatalogIndex

/-! ## Searches of a policy -/

namespace Policy

/-- A policy that was made from settings and has been called since. -/
def Called (policy : Policy) : Prop :=
  ∃ settings contextWindow? start calls, ofSettings settings contextWindow? = .ok start ∧
    policy = start.afterAll calls

variable {policy : Policy} {indexed : IndexedCatalog} {request : SearchRequest}
  {outcome : SearchOutcome}

/-- The index of a policy is that of some catalog. -/
theorem Called.exists_indexOf (h : Called policy) (hindexed : policy.indexed? = some indexed) :
    ∃ catalog, Fits catalog ∧ indexed = policy.indexOf catalog := by
  obtain ⟨settings, contextWindow?, start, calls, hstart, rfl⟩ := h
  have hnew : start.indexed? = none := by rw [eq_of_ofSettings hstart]
  rw [afterAll_eq hnew] at hindexed ⊢
  cases hfirst : calls.findSome? Call.fitting? with
  | none =>
      rw [hfirst] at hindexed
      rw [hnew] at hindexed
      cases hindexed
  | some catalog =>
      rw [hfirst] at hindexed
      obtain ⟨call, -, hfitting⟩ := List.exists_of_findSome?_eq_some hfirst
      exact ⟨catalog, (Call.fitting?_eq_some.mp hfitting).2, (Option.some.inj hindexed).symm⟩

/-- The index holds the tools that can be searched for. -/
theorem names_indexOf (policy : Policy) (catalog : List ToolDefinition) :
    (policy.indexOf catalog).index.names = (searchableTools catalog).map (·.name) :=
  CatalogIndex.names_pushAll {} (searchableTools catalog)

/-- The search itself is not in the index. -/
theorem ne_searchToolName_of_mem_indexOf {catalog : List ToolDefinition} {name : String}
    (h : name ∈ (policy.indexOf catalog).index.names) : name ≠ searchToolName := by
  rw [names_indexOf] at h
  obtain ⟨tool, htool, rfl⟩ := List.mem_map.mp h
  exact of_decide_eq_true (List.mem_filter.mp htool).2

theorem limitOf_le : policy.limitOf request ≤ 5 := by
  unfold limitOf maxHits
  omega

theorem hitsOf_of_new (h : policy.indexed? = none) : policy.hitsOf request = .ok [] := by
  simp only [hitsOf, h, ite_self]

/-- A policy with an index finds at most five tools, all of them in the index. -/
theorem hitsOf_of_indexed {hits : List Hit} (h : policy.indexed? = some indexed)
    (hhits : policy.hitsOf request = .ok hits) :
    hits.length ≤ 5 ∧ ∀ hit ∈ hits, hit.name ∈ indexed.index.names := by
  unfold hitsOf at hhits
  by_cases hblank : Text.isBlankText request.query
  · rw [if_pos hblank] at hhits
    cases hhits
    simp
  · rw [if_neg hblank, h] at hhits
    obtain ⟨hlength, hnames⟩ := CatalogIndex.search_ok hhits
    exact ⟨Nat.le_trans hlength limitOf_le, hnames⟩

/-- There are at most five hits, and the search itself is none of them. -/
theorem Called.hitsOf_ok {hits : List Hit} (h : Called policy)
    (hhits : policy.hitsOf request = .ok hits) :
    hits.length ≤ 5 ∧ ∀ hit ∈ hits, hit.name ≠ searchToolName := by
  cases hindexed : policy.indexed? with
  | none =>
      rw [hitsOf_of_new hindexed] at hhits
      cases hhits
      simp
  | some indexed =>
      obtain ⟨hlength, hnames⟩ := hitsOf_of_indexed hindexed hhits
      obtain ⟨catalog, -, rfl⟩ := h.exists_indexOf hindexed
      exact ⟨hlength, fun hit hhit => ne_searchToolName_of_mem_indexOf (hnames hit hhit)⟩

/-- In a session that contains all that a search has unlocked the same search unlocks nothing. -/
theorem search_again (h : policy.search request session = .ok outcome) {later : Session}
    (hlater : outcome.session ≤ later) :
    ∃ again, policy.search request later = .ok again ∧ again.hits = outcome.hits ∧
      again.unlocked = [] ∧ again.session = later := by
  obtain ⟨text, hagain⟩ := search_of_hitsOf_ok (search_ok h).1 later
  have hnone : (unlockHits policy.settings.alwaysInclude outcome.hits later).2 = [] := by
    rw [List.eq_nil_iff_forall_not_mem]
    intro name hname
    obtain ⟨hmissing, hunlockable⟩ := mem_unlockHits_names.mp hname
    exact hmissing (hlater name ((search_contains h).mpr (.inr hunlockable)))
  refine ⟨_, hagain, rfl, hnone, ?_⟩
  show (unlockHits policy.settings.alwaysInclude outcome.hits later).1 = later
  rw [unlockHits_session, hnone]
  rfl

/-- A search has at most five hits, which do not depend on the session and do not include the search
itself. It reports those of their names that are new, and adds exactly these to the session. When it
is repeated in the session to go on with, or in any that contains this one, the hits are the same
and nothing is new. -/
theorem search_outcome (hcalled : Called policy)
    (h : policy.search request session = .ok outcome) :
    outcome.hits.length ≤ 5 ∧
    (∀ hit ∈ outcome.hits, hit.name ≠ searchToolName) ∧
    (∀ other, ∃ elsewhere, policy.search request other = .ok elsewhere ∧
      elsewhere.hits = outcome.hits) ∧
    outcome.unlocked = newNames policy.settings.alwaysInclude session outcome.hits ∧
    outcome.session = session.unlockMany outcome.unlocked ∧
    (outcome.session = session ↔ outcome.unlocked = []) ∧
    (∀ name, name ∈ outcome.delta ↔ outcome.session.contains name ∧ ¬ session.contains name) ∧
    ∀ later, outcome.session ≤ later → ∃ again, policy.search request later = .ok again ∧
      again.hits = outcome.hits ∧ again.unlocked = [] ∧ again.session = later := by
  obtain ⟨hhits, hunlock⟩ := search_ok h
  obtain ⟨hlength, hnames⟩ := hcalled.hitsOf_ok hhits
  have hunlocked : outcome.unlocked =
      (unlockHits policy.settings.alwaysInclude outcome.hits session).2 := by rw [hunlock]
  have hsession : outcome.session = session.unlockMany outcome.unlocked := by
    rw [hunlocked, ← unlockHits_session, hunlock]
  have hnew (name : String) (hname : name ∈ outcome.unlocked) : ¬ session.contains name := by
    rw [hunlocked] at hname
    exact (mem_unlockHits_names.mp hname).1
  refine ⟨hlength, hnames, fun other => ?_, ?_, hsession, ⟨fun hsame => ?_, fun hnone => ?_⟩,
    fun name => ?_, fun later => search_again h⟩
  · obtain ⟨text, hother⟩ := search_of_hitsOf_ok hhits other
    exact ⟨_, hother, rfl⟩
  · rw [hunlocked, unlockHits_names]
  · -- A name that was reported would be in the session already.
    rw [List.eq_nil_iff_forall_not_mem]
    intro name hname
    have hcontains : outcome.session.contains name := by
      rw [hsession, Session.contains_unlockMany]
      exact .inr hname
    exact hnew name hname (hsame ▸ hcontains)
  · rw [hsession, hnone]
    rfl
  · rw [SearchOutcome.delta, NameSet.mem_ofList, hsession, Session.contains_unlockMany]
    constructor
    · intro hname
      exact ⟨.inr hname, hnew name hname⟩
    · rintro ⟨hold | hname, hmissing⟩
      · exact absurd hold hmissing
      · exact hname

/-- The policy that hides one tool has come about by indexing its catalog. -/
theorem mailPolicy_called : Called mailPolicy := by
  let start : Policy := { settings := mailPolicy.settings, contextWindow? := none }
  have hnew : start.indexed? = none := rfl
  have hfits : Fits [mailTool] := by decide
  have hafter : start.after (.ensureIndex [mailTool]) = start.indexedWith [mailTool] :=
    after_of_fits hnew rfl hfits
  exact ⟨mailPolicy.settings, none, start, [.ensureIndex [mailTool]], rfl, hafter.symm⟩

/-- The first search reports the tool, and the second one finds it again but has no news. -/
theorem search_outcome_mail :
    ∃ outcome again, mailPolicy.search { query := "message" } (.ofNames ["other"]) = .ok outcome ∧
      outcome.unlocked = [mailTool.name] ∧
      mailPolicy.search { query := "message" } outcome.session = .ok again ∧
      again.hits = outcome.hits ∧ again.unlocked = [] := by
  obtain ⟨score, hhits⟩ := mailPolicy_hitsOf
  obtain ⟨text, hsearch⟩ := search_of_hitsOf_ok hhits (.ofNames ["other"])
  obtain ⟨-, -, -, hunlocked, -, -, -, hrepeat⟩ := search_outcome mailPolicy_called hsearch
  obtain ⟨again, hagain, hsame, hnone, -⟩ := hrepeat _ (Session.le_refl _)
  refine ⟨_, again, hsearch, ?_, hagain, hsame, hnone⟩
  rw [hunlocked]
  show (([mailTool.name].filter fun name =>
    !([] : List String).contains name &&
    !(Session.ofNames ["other"]).contains name).eraseDups) = [mailTool.name]
  decide +kernel

end Policy

end ToolDiscovery
