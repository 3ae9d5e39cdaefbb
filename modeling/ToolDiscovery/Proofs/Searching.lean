import ToolDiscovery.Discovery.SearchTool
import ToolDiscovery.Proofs.IndexSteps
import ToolDiscovery.Proofs.Sessions

/-!
# What a search does to a session

The hits of a request do not depend on the session (`Policy.hitsOf`). Hits that are not always shown
can be unlocked (`unlockable`), and a search adds exactly these to the session that it is given:
`Policy.searching_eq` takes a search apart, and `contains_unlockHits` says what it adds. The policy
is the same after every search.
-/

namespace ToolDiscovery

/-- The names that hits can unlock: those that are not always shown. -/
def unlockable (alwaysInclude : List String) (hits : List Hit) : List String :=
  (hits.map (·.name)).filter fun name => !alwaysInclude.contains name

theorem mem_unlockable {alwaysInclude : List String} {hits : List Hit} {name : String} :
    name ∈ unlockable alwaysInclude hits ↔
      name ∉ alwaysInclude ∧ ∃ hit ∈ hits, hit.name = name := by
  simp only [unlockable, List.mem_filter, List.mem_map, Bool.not_eq_true', and_comm,
    List.contains_eq_mem, decide_eq_false_iff_not]

theorem unlockable_cons (alwaysInclude : List String) (hit : Hit) (rest : List Hit) :
    unlockable alwaysInclude (hit :: rest) =
      if alwaysInclude.contains hit.name then unlockable alwaysInclude rest
      else hit.name :: unlockable alwaysInclude rest := by
  rw [unlockable, List.map_cons, List.filter_cons]
  cases alwaysInclude.contains hit.name <;> rfl

/-! ## Unlocking hits -/

/-- Unlocking hits adds the names that they can unlock, and nothing else. -/
theorem contains_unlockHits {alwaysInclude : List String} {hits : List Hit} {session : Session}
    {name : String} :
    (unlockHits alwaysInclude hits session).1.contains name ↔
      session.contains name ∨ name ∈ unlockable alwaysInclude hits := by
  induction hits generalizing session with
  | nil => simp [unlockHits, unlockable]
  | cons hit rest ih =>
      rw [unlockHits, unlockable_cons]
      by_cases hshown : alwaysInclude.contains hit.name
      · simp only [hshown, Bool.true_or, if_true]
        exact ih
      · by_cases hseen : session.contains hit.name
        · -- The name is passed over, but it could be unlocked: the session has it already.
          simp only [hshown, hseen, Bool.or_true, if_true, Bool.false_eq_true, if_false]
          rw [ih, List.mem_cons]
          constructor
          · rintro (h | h)
            · exact .inl h
            · exact .inr (.inr h)
          · rintro (h | rfl | h)
            · exact .inl h
            · exact .inl hseen
            · exact .inr h
        · simp only [hshown, hseen, Bool.or_self, Bool.false_eq_true, if_false]
          rw [ih, Session.contains_unlock, List.mem_cons]
          tauto

/-- Exactly those names are reported as unlocked that the session did not contain before. -/
theorem mem_unlockHits_names {alwaysInclude : List String} {hits : List Hit} {session : Session}
    {name : String} :
    name ∈ (unlockHits alwaysInclude hits session).2 ↔
      ¬ session.contains name ∧ name ∈ unlockable alwaysInclude hits := by
  induction hits generalizing session with
  | nil => simp [unlockHits, unlockable]
  | cons hit rest ih =>
      rw [unlockHits, unlockable_cons]
      by_cases hshown : alwaysInclude.contains hit.name
      · simp only [hshown, Bool.true_or, if_true]
        exact ih
      · by_cases hseen : session.contains hit.name
        · simp only [hshown, hseen, Bool.or_true, if_true, Bool.false_eq_true, if_false]
          rw [ih, List.mem_cons]
          constructor
          · rintro ⟨hnew, h⟩
            exact ⟨hnew, .inr h⟩
          · rintro ⟨hnew, rfl | h⟩
            · exact absurd hseen hnew
            · exact ⟨hnew, h⟩
        · simp only [hshown, hseen, Bool.or_self, Bool.false_eq_true, if_false]
          rw [List.mem_cons, ih, Session.contains_unlock, List.mem_cons]
          by_cases hname : name = hit.name
          · simp [hname, hseen]
          · simp [hname]

/-- If nothing is reported as unlocked, the session contains all that can be. -/
theorem contains_of_unlockHits_nil {alwaysInclude : List String} {hits : List Hit}
    {session : Session} {name : String} (h : (unlockHits alwaysInclude hits session).2 = [])
    (hname : name ∈ unlockable alwaysInclude hits) : session.contains name := by
  by_contra hmissing
  have hmem := mem_unlockHits_names.mpr ⟨hmissing, hname⟩
  rw [h] at hmem
  exact List.not_mem_nil hmem

/-! ## Searches -/

namespace Policy

/-- The hits of a request, in whatever session it is made. A blank query and a missing index have
none. -/
def hitsOf (policy : Policy) (request : SearchRequest) : Except DiscoveryError (List Hit) :=
  if Text.isBlankText request.query then .ok []
  else
    match policy.indexed? with
    | none => .ok []
    | some indexed =>
      indexed.index.search request.query (policy.modeOf request) (policy.limitOf request)

variable {policy : Policy} {request : SearchRequest} {session : Session}

/-- The outcome of a search with the given text and hits. -/
def outcomeOf (policy : Policy) (session : Session) (text : String) (hits : List Hit) :
    SearchOutcome where
  text := text
  session := (unlockHits policy.settings.alwaysInclude hits session).1
  hits := hits
  unlocked := (unlockHits policy.settings.alwaysInclude hits session).2

/-- What a search tells about the hits of its request and the names that they unlock. -/
def reportOf (policy : Policy) (request : SearchRequest) (hits : List Hit)
    (unlocked : List String) : String :=
  if Text.isBlankText request.query then SearchReport.blankQuery
  else
    match policy.indexed? with
    | none => SearchReport.notIndexed
    | some indexed =>
      if hits.isEmpty then SearchReport.noHits request.query (policy.modeOf request)
      else SearchReport.found indexed.index request.query (policy.modeOf request) hits unlocked

theorem reportOf_of_indexed {indexed : IndexedCatalog}
    (hblank : Text.isBlankText request.query = false) (hindexed : policy.indexed? = some indexed)
    (hits : List Hit) (unlocked : List String) :
    policy.reportOf request hits unlocked =
      if hits.isEmpty then SearchReport.noHits request.query (policy.modeOf request)
      else
        SearchReport.found indexed.index request.query (policy.modeOf request) hits unlocked := by
  simp only [reportOf, hblank, hindexed, Bool.false_eq_true, if_false]

/-- What comes of a search with the given hits. -/
def outcomeWith (policy : Policy) (request : SearchRequest) (session : Session) (hits : List Hit) :
    SearchOutcome :=
  policy.outcomeOf session
    (policy.reportOf request hits (unlockHits policy.settings.alwaysInclude hits session).2) hits

theorem searchingIn_eq {indexed : IndexedCatalog} (hblank : Text.isBlankText request.query = false)
    (hindexed : policy.indexed? = some indexed) :
    searchingIn indexed request session policy =
      match indexed.index.search request.query (policy.modeOf request)
          (policy.limitOf request) with
      | .ok hits => .ok (policy.outcomeWith request session hits) policy
      | .error error => .error error policy := by
  unfold outcomeWith searchingIn
  rw [Change.run_get]
  simp only [reportOf_of_indexed hblank hindexed]
  cases indexed.index.search request.query (policy.modeOf request) (policy.limitOf request) with
  | error error => rfl
  | ok hits =>
      cases hits with
      | nil => rfl
      | cons hit rest => rfl

/-- A search finds the hits of its request, unlocks them in the session that it is given and tells
about them. If the hits cannot be found, it fails. In neither case does the policy change. -/
theorem searching_eq (policy : Policy) (request : SearchRequest) (session : Session) :
    searching request session policy =
      match policy.hitsOf request with
      | .ok hits => .ok (policy.outcomeWith request session hits) policy
      | .error error => .error error policy := by
  unfold searching hitsOf
  cases hblank : Text.isBlankText request.query with
  | true =>
      simp only [outcomeWith, reportOf, hblank, if_true]
      rfl
  | false =>
      simp only [Bool.false_eq_true, if_false]
      show (get >>= _ : Change Policy SearchOutcome) policy = _
      rw [Change.run_get]
      cases hindexed : policy.indexed? with
      | none =>
          simp only [outcomeWith, reportOf, hblank, hindexed, Bool.false_eq_true, if_false]
          rfl
      | some indexed => exact searchingIn_eq hblank hindexed

/-- A search succeeds if the hits of its request can be found. -/
theorem search_eq (policy : Policy) (request : SearchRequest) (session : Session) :
    policy.search request session =
      (policy.hitsOf request).map (policy.outcomeWith request session) := by
  rw [search, Change.result, searching_eq]
  cases policy.hitsOf request with
  | error error => rfl
  | ok hits => rfl

/-- What comes of a search is all that it does: the policy is as it was. -/
theorem searching_eq_search (policy : Policy) (request : SearchRequest) (session : Session) :
    searching request session policy =
      match policy.search request session with
      | .ok outcome => .ok outcome policy
      | .error error => .error error policy := by
  rw [searching_eq, search_eq]
  cases policy.hitsOf request with
  | error error => rfl
  | ok hits => rfl

theorem leaves_searching (policy : Policy) (request : SearchRequest) (session : Session) :
    (searching request session).leaves policy = policy := by
  rw [Change.leaves, searching_eq_search]
  cases policy.search request session with
  | error error => rfl
  | ok outcome => rfl

/-- A request whose hits can be found succeeds in every session and unlocks them. -/
theorem search_of_hitsOf_ok {hits : List Hit} (h : policy.hitsOf request = .ok hits)
    (session : Session) :
    ∃ text, policy.search request session = .ok (policy.outcomeOf session text hits) := by
  rw [search_eq, h]
  exact ⟨_, rfl⟩

/-- A request whose hits cannot be found fails in every session. -/
theorem search_of_hitsOf_error {error : DiscoveryError} (h : policy.hitsOf request = .error error)
    (session : Session) : policy.search request session = .error error := by
  rw [search_eq, h]
  rfl

theorem isVisible_iff {name : String} :
    policy.isVisible session name ↔
      name ∈ policy.settings.alwaysInclude ∨ session.contains name := by
  simp [isVisible]

/-- A search that succeeds has the hits of its request and unlocks them. -/
theorem search_ok {outcome : SearchOutcome} (h : policy.search request session = .ok outcome) :
    policy.hitsOf request = .ok outcome.hits ∧
      unlockHits policy.settings.alwaysInclude outcome.hits session =
        (outcome.session, outcome.unlocked) := by
  cases hhits : policy.hitsOf request with
  | error error =>
      rw [search_of_hitsOf_error hhits] at h
      cases h
  | ok hits =>
      obtain ⟨text, hsearch⟩ := search_of_hitsOf_ok hhits session
      rw [hsearch] at h
      cases h
      exact ⟨rfl, rfl⟩

/-- The session to go on with contains what it did before and what the hits can unlock. -/
theorem search_contains {outcome : SearchOutcome} {name : String}
    (h : policy.search request session = .ok outcome) :
    outcome.session.contains name ↔
      session.contains name ∨ name ∈ unlockable policy.settings.alwaysInclude outcome.hits := by
  have hunlock := (search_ok h).2
  rw [← contains_unlockHits, hunlock]

end Policy

/-! ## A policy that hides one tool -/

/-- A tool that can be searched for. -/
def mailTool : ToolDefinition where
  name := "send_mail"
  description := "Sends a message."
  parameters := ToolDefinition.emptyParameters

/-- The catalog of that tool, hidden behind searches by words. -/
def mailCatalog : IndexedCatalog where
  index := CatalogIndex.push {} (.ofDefinition mailTool)
  budget := Budget.measure [mailTool] .default none
  isDeferred := true

/-- A policy that has indexed this catalog. -/
def mailPolicy : Policy where
  settings := { defaultMode := .bm25, forceDeferred := some true }
  contextWindow? := none
  indexed? := some mailCatalog
  builds := 1

/-- A word of its description finds the tool. -/
theorem mailPolicy_hitsOf :
    ∃ score, mailPolicy.hitsOf { query := "message" } = .ok [⟨mailTool.name, score⟩] := by
  have hpositions : (Bm25.default.answers mailCatalog.index.corpus
      (Text.tokenize "message")).map (·.position) = [0] := by decide +kernel
  obtain ⟨answer, hanswers, hposition⟩ := List.map_eq_singleton_iff.mp hpositions
  have hblank : Text.isBlankText "message" = false := by decide +kernel
  refine ⟨answer.score, ?_⟩
  have hranking : mailCatalog.index.rankWords "message" 5 = [answer] := by
    rw [CatalogIndex.rankWords, Bm25.search, hanswers, Scored.best, Scored.rank,
      List.mergeSort_singleton]
    rfl
  have hhits : mailCatalog.index.hits [answer] = [⟨mailTool.name, answer.score⟩] := by
    rw [CatalogIndex.hits, List.filterMap_cons, hposition]
    rfl
  rw [Policy.hitsOf, if_neg (by simp [hblank])]
  show Except.ok (mailCatalog.index.hits (mailCatalog.index.rankWords "message" 5)) = _
  rw [hranking, hhits]

end ToolDiscovery
