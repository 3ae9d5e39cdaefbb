import Mathlib.Logic.Relation
import ToolDiscovery.Proofs.Searching

/-!
# Searches that are under way at the same time

Several calls of the search may share a session. A call first looks at the session; when its search
is done, it adds what it has unlocked to the session as that is by then. `Invariant` relates all
that the calls have seen to the session, and `session_of_interleaving` concludes that the order of
these steps does not matter: the session gains what the calls can unlock, and nothing else.
-/

namespace ToolDiscovery

/-! ## What a call adds to a session -/

/-- The names that a call with the given arguments can unlock, in whatever session it is made. -/
def Policy.unlockedBy (policy : Policy) (arguments : String) : List String :=
  match decodeArguments SearchRequest.decoder arguments with
  | .error _ => []
  | .ok request =>
    match policy.hitsOf request with
    | .error _ => []
    | .ok hits => unlockable policy.settings.alwaysInclude hits

variable {policy : Policy} {snapshot session initial : Session} {arguments name : String}

theorem Policy.unlockedBy_of_ok {request : SearchRequest} {hits : List Hit}
    (hrequest : decodeArguments SearchRequest.decoder arguments = .ok request)
    (hhits : policy.hitsOf request = .ok hits) :
    policy.unlockedBy arguments = unlockable policy.settings.alwaysInclude hits := by
  simp only [unlockedBy, hrequest, hhits]

/-- What a call can unlock are its hits that are not always shown, if its arguments can be decoded
and its search succeeds. The session that it looks at makes no difference. -/
theorem Policy.mem_unlockedBy (snapshot : Session) :
    name ∈ policy.unlockedBy arguments ↔
      ∃ request outcome, decodeArguments SearchRequest.decoder arguments = .ok request ∧
        policy.search request snapshot = .ok outcome ∧
        (∃ hit ∈ outcome.hits, hit.name = name) ∧ name ∉ policy.settings.alwaysInclude := by
  constructor
  · intro h
    cases hrequest : decodeArguments SearchRequest.decoder arguments with
    | error complaint => simp [unlockedBy, hrequest] at h
    | ok request =>
        cases hhits : policy.hitsOf request with
        | error error => simp [unlockedBy, hrequest, hhits] at h
        | ok hits =>
            obtain ⟨text, hsearch⟩ := search_of_hitsOf_ok hhits snapshot
            rw [unlockedBy_of_ok hrequest hhits] at h
            have hmem := mem_unlockable.mp h
            exact ⟨request, _, rfl, hsearch, hmem.2, hmem.1⟩
  · rintro ⟨request, outcome, hrequest, hsearch, hhit, hhidden⟩
    rw [unlockedBy_of_ok hrequest (search_ok hsearch).1]
    exact mem_unlockable.mpr ⟨hhidden, hhit⟩

namespace SearchAnswer

/-- A call adds nothing if the session that it has looked at contains all that it can unlock.
Otherwise it adds that session with what it can unlock. -/
theorem ofCall_additions (policy : Policy) (snapshot : Session) (arguments : String) :
    ((ofCall policy snapshot arguments).additions? = none ∧
      ∀ name ∈ policy.unlockedBy arguments, snapshot.contains name) ∨
    ∃ additions, (ofCall policy snapshot arguments).additions? = some additions ∧
      (∃ name ∈ policy.unlockedBy arguments, ¬ snapshot.contains name) ∧
      ∀ name, additions.contains name ↔
        snapshot.contains name ∨ name ∈ policy.unlockedBy arguments := by
  cases hrequest : decodeArguments SearchRequest.decoder arguments with
  | error complaint => exact .inl (by simp [ofCall, Policy.unlockedBy, hrequest])
  | ok request =>
      cases hhits : policy.hitsOf request with
      | error error =>
          have hsearch := Policy.search_of_hitsOf_error hhits snapshot
          exact .inl (by simp [ofCall, Policy.unlockedBy, hrequest, hhits, hsearch])
      | ok hits =>
          obtain ⟨text, hsearch⟩ := Policy.search_of_hitsOf_ok hhits snapshot
          rw [Policy.unlockedBy_of_ok hrequest hhits]
          simp only [ofCall, hrequest, hsearch, Policy.outcomeOf]
          cases hnew : (unlockHits policy.settings.alwaysInclude hits snapshot).2 with
          | nil => exact .inl ⟨rfl, fun name => contains_of_unlockHits_nil hnew⟩
          | cons first rest =>
              have hfirst := mem_unlockHits_names.mp (hnew ▸ List.mem_cons_self)
              exact .inr ⟨_, rfl, ⟨first, hfirst.2, hfirst.1⟩, fun name => contains_unlockHits⟩

/-- What a call can unlock is in the session once it has added it. Nothing is lost and nothing else
is gained if the session contains what the call has looked at. -/
theorem contains_addTo (h : snapshot ≤ session) :
    ((ofCall policy snapshot arguments).addTo session).contains name ↔
      session.contains name ∨ name ∈ policy.unlockedBy arguments := by
  obtain ⟨hnone, hall⟩ | ⟨additions, hsome, -, hadditions⟩ :=
    ofCall_additions policy snapshot arguments
  · rw [addTo, hnone]
    exact (or_iff_left_of_imp fun hname => h name (hall name hname)).symm
  · -- The additions bring the snapshot along; the session still contains it.
    rw [addTo, hsome]
    show (session.merge additions).contains name ↔ _
    rw [Session.contains_merge, hadditions name, ← or_assoc]
    exact or_congr_left (or_iff_left_of_imp (h name))

theorem additions_eq_none (h : policy.unlockedBy arguments = []) :
    (ofCall policy snapshot arguments).additions? = none := by
  obtain ⟨hnone, -⟩ | ⟨-, -, ⟨name, hname, -⟩, -⟩ := ofCall_additions policy snapshot arguments
  · exact hnone
  · rw [h] at hname
    exact absurd hname List.not_mem_nil

end SearchAnswer

/-- How a call of the search can fail to find anything. -/
inductive Policy.FindsNothing (policy : Policy) (arguments : String) : Prop where
  | badArguments {complaint : String}
      (h : decodeArguments SearchRequest.decoder arguments = .error complaint)
  | blankQuery {request : SearchRequest}
      (h : decodeArguments SearchRequest.decoder arguments = .ok request)
      (hblank : Text.isBlankText request.query)
  | longPattern {request : SearchRequest}
      (h : decodeArguments SearchRequest.decoder arguments = .ok request)
      (hmode : policy.modeOf request ≠ .bm25) (hlong : Pattern.maxLength < request.query.length)
  | failure {request : SearchRequest} {error : DiscoveryError} (snapshot : Session)
      (h : decodeArguments SearchRequest.decoder arguments = .ok request)
      (herror : policy.search request snapshot = .error error)
  | noHits {request : SearchRequest} {outcome : SearchOutcome} (snapshot : Session)
      (h : decodeArguments SearchRequest.decoder arguments = .ok request)
      (hsearch : policy.search request snapshot = .ok outcome) (hhits : outcome.hits = [])

/-- The hits of a pattern that is too long cannot be found. -/
theorem Policy.hitsOf_of_longPattern {request : SearchRequest} {hits : List Hit}
    (hmode : policy.modeOf request ≠ .bm25) (hlong : Pattern.maxLength < request.query.length)
    (h : policy.hitsOf request = .ok hits) : hits = [] := by
  have herror : CatalogIndex.compilePattern request.query =
      .error (.patternTooLong request.query.length Pattern.maxLength) := by
    rw [CatalogIndex.compilePattern, if_pos hlong]
  unfold hitsOf at h
  by_cases hblank : Text.isBlankText request.query
  · rw [if_pos hblank] at h
    cases h
    rfl
  · rw [if_neg hblank] at h
    cases hindexed : policy.indexed? with
    | none =>
        rw [hindexed] at h
        cases h
        rfl
    | some indexed =>
        simp only [hindexed, CatalogIndex.search, CatalogIndex.searchPattern, herror] at h
        cases hm : policy.modeOf request with
        | bm25 => exact absurd hm hmode
        | regex =>
            rw [hm] at h
            cases h
        | hybrid =>
            rw [hm] at h
            cases h

/-- A call that finds nothing can unlock nothing. -/
theorem Policy.unlockedBy_eq_nil (h : policy.FindsNothing arguments) :
    policy.unlockedBy arguments = [] := by
  have hnil {request : SearchRequest}
      (hrequest : decodeArguments SearchRequest.decoder arguments = .ok request)
      (hempty : ∀ hits, policy.hitsOf request = .ok hits → hits = []) :
      policy.unlockedBy arguments = [] := by
    cases hhits : policy.hitsOf request with
    | error error => simp only [unlockedBy, hrequest, hhits]
    | ok hits =>
        rw [unlockedBy_of_ok hrequest hhits, hempty hits hhits]
        rfl
  cases h with
  | badArguments h => simp only [unlockedBy, h]
  | blankQuery h hblank =>
      refine hnil h fun hits hhits => ?_
      rw [hitsOf, if_pos hblank] at hhits
      cases hhits
      rfl
  | longPattern h hmode hlong => exact hnil h fun hits => hitsOf_of_longPattern hmode hlong
  | failure snapshot h herror =>
      refine hnil h fun hits hhits => ?_
      obtain ⟨text, hsearch⟩ := search_of_hitsOf_ok hhits snapshot
      rw [hsearch] at herror
      cases herror
  | noHits snapshot h hsearch hnone =>
      refine hnil h fun hits hhits => ?_
      have hsame := (search_ok hsearch).1.symm.trans hhits
      cases hsame
      exact hnone

/-! ## Calls that share a session -/

/-- How far a call has come. -/
inductive CallStage where
  /-- It has not looked at the session yet. -/
  | waiting
  /-- It has looked at the session, and its search goes on with what it has seen. -/
  | looked (snapshot : Session)
  /-- It has added what it has unlocked. -/
  | finished

/-- A call of the search that may be under way. -/
structure OngoingCall where
  /-- What the search is called with. -/
  arguments : String
  /-- How far the call has come. -/
  stage : CallStage := .waiting

/-- A session with the calls that share it. -/
structure SharedSession where
  /-- The session as it is now. -/
  session : Session
  /-- The calls, each at its own stage. -/
  calls : List OngoingCall

namespace SharedSession

/-- No call has begun. -/
def start (session : Session) (calls : List String) : SharedSession where
  session := session
  calls := calls.map fun arguments => { arguments }

/-- A step of one call, while the others stay where they are. -/
inductive Step (policy : Policy) : SharedSession → SharedSession → Prop where
  | look {session : Session} {arguments : String} {before after : List OngoingCall} :
      Step policy ⟨session, before ++ ⟨arguments, .waiting⟩ :: after⟩
        ⟨session, before ++ ⟨arguments, .looked session⟩ :: after⟩
  | add {session snapshot : Session} {arguments : String} {before after : List OngoingCall} :
      Step policy ⟨session, before ++ ⟨arguments, .looked snapshot⟩ :: after⟩
        ⟨(SearchAnswer.ofCall policy snapshot arguments).addTo session,
          before ++ ⟨arguments, .finished⟩ :: after⟩

/-- Steps of any calls in any order. -/
abbrev Steps (policy : Policy) : SharedSession → SharedSession → Prop :=
  Relation.ReflTransGen (Step policy)

/-- All calls are over. -/
def IsFinished (shared : SharedSession) : Prop := ∀ call ∈ shared.calls, call.stage = .finished

/-! ## What every order of steps preserves -/

/-- A finished call can unlock the name. -/
def Unlocked (policy : Policy) (calls : List OngoingCall) (name : String) : Prop :=
  ∃ call ∈ calls, call.stage = .finished ∧ name ∈ policy.unlockedBy call.arguments

theorem unlocked_append_cons {before after : List OngoingCall} {call : OngoingCall} :
    Unlocked policy (before ++ call :: after) name ↔
      (Unlocked policy before name ∨ Unlocked policy after name) ∨
        call.stage = .finished ∧ name ∈ policy.unlockedBy call.arguments := by
  simp only [Unlocked, List.mem_append, List.mem_cons, or_and_right, exists_or, exists_eq_left]
  rw [← or_assoc]
  exact or_right_comm

/-- The session contains what it did at first and what the finished calls can unlock. What a call
has looked at, the session still contains. -/
structure Invariant (policy : Policy) (initial : Session) (shared : SharedSession) : Prop where
  contains_iff : ∀ name, shared.session.contains name ↔
    initial.contains name ∨ Unlocked policy shared.calls name
  looked_le : ∀ call ∈ shared.calls, ∀ snapshot,
    call.stage = .looked snapshot → snapshot ≤ shared.session

variable {shared next final : SharedSession} {calls : List String}

theorem not_unlocked_start : ¬ Unlocked policy (start initial calls).calls name := by
  rintro ⟨call, hcall, hstage, -⟩
  obtain ⟨arguments, -, rfl⟩ := List.mem_map.mp hcall
  cases hstage

theorem invariant_start (policy : Policy) (initial : Session) (calls : List String) :
    Invariant policy initial (start initial calls) where
  contains_iff name := (or_iff_left not_unlocked_start).symm
  looked_le call hcall snapshot hstage := by
    obtain ⟨arguments, -, rfl⟩ := List.mem_map.mp hcall
    cases hstage

/-- What the other calls have looked at, a session that only grows still contains. -/
theorem looked_le_of_replace {session larger : Session} {before after : List OngoingCall}
    {call replaced : OngoingCall} (hle : session ≤ larger)
    (h : ∀ call ∈ before ++ replaced :: after, ∀ snapshot,
      call.stage = .looked snapshot → snapshot ≤ session)
    (hcall : ∀ snapshot, call.stage = .looked snapshot → snapshot ≤ larger) :
    ∀ other ∈ before ++ call :: after, ∀ snapshot,
      other.stage = .looked snapshot → snapshot ≤ larger := by
  intro other hother snapshot hstage
  have hold (hmem : other ∈ before ++ replaced :: after) : snapshot ≤ larger :=
    Session.le_trans (h other hmem snapshot hstage) hle
  rcases List.mem_append.mp hother with hbefore | hrest
  · exact hold (List.mem_append_left _ hbefore)
  · rcases List.mem_cons.mp hrest with rfl | hafter
    · exact hcall snapshot hstage
    · exact hold (List.mem_append_right _ (List.mem_cons_of_mem _ hafter))

/-- A call that looks at the session changes nothing, and one that adds to it keeps what is there:
it has looked at a part of the session, so it loses nothing and brings back only what it can
unlock. -/
theorem Invariant.step (h : Invariant policy initial shared) (hstep : Step policy shared next) :
    Invariant policy initial next := by
  cases hstep with
  | @look session arguments before after =>
      -- A call that is not finished counts for nothing, at whatever stage it is.
      refine ⟨fun name => ?_, ?_⟩
      · have hcontains := h.contains_iff name
        rw [unlocked_append_cons] at hcontains ⊢
        simpa using hcontains
      · refine looked_le_of_replace (Session.le_refl session) h.looked_le ?_
        intro snapshot hstage
        cases hstage
        exact Session.le_refl session
  | @add session snapshot arguments before after =>
      have hsnapshot : snapshot ≤ session :=
        h.looked_le _ (List.mem_append_right _ List.mem_cons_self) snapshot rfl
      have hadded (name : String) :
          ((SearchAnswer.ofCall policy snapshot arguments).addTo session).contains name ↔
            session.contains name ∨ name ∈ policy.unlockedBy arguments :=
        SearchAnswer.contains_addTo hsnapshot
      refine ⟨fun name => ?_, ?_⟩
      · have hcontains := h.contains_iff name
        rw [unlocked_append_cons] at hcontains ⊢
        simp only [reduceCtorEq, false_and, or_false] at hcontains
        rw [hadded name, hcontains, or_assoc]
        simp only [true_and]
      · refine looked_le_of_replace (fun name hname => (hadded name).mpr (.inl hname))
          h.looked_le ?_
        intro other hstage
        cases hstage

theorem Invariant.steps (h : Invariant policy initial shared) (hsteps : Steps policy shared final) :
    Invariant policy initial final := by
  induction hsteps with
  | refl => exact h
  | tail _ hstep ih => exact ih.step hstep

/-- The calls keep their arguments. -/
theorem arguments_eq_of_steps (hsteps : Steps policy shared final) :
    final.calls.map (·.arguments) = shared.calls.map (·.arguments) := by
  induction hsteps with
  | refl => rfl
  | tail _ hstep ih =>
      rw [← ih]
      cases hstep with
      | look => simp
      | add => simp

/-! ## Where every order of steps ends -/

/-- The session after all calls, in whatever order they were made. -/
def sessionAfter (policy : Policy) (initial : Session) (calls : List String) : Session :=
  initial.unlockMany (calls.flatMap policy.unlockedBy)

theorem contains_sessionAfter :
    (sessionAfter policy initial calls).contains name ↔
      initial.contains name ∨ ∃ arguments ∈ calls, name ∈ policy.unlockedBy arguments := by
  rw [sessionAfter, Session.contains_unlockMany, List.mem_flatMap]

/-- What has been unlocked on the way, some call can unlock. -/
theorem exists_unlockedBy_of_unlocked (hsteps : Steps policy (start initial calls) shared)
    (h : Unlocked policy shared.calls name) :
    ∃ arguments ∈ calls, name ∈ policy.unlockedBy arguments := by
  obtain ⟨call, hcall, -, hname⟩ := h
  refine ⟨call.arguments, ?_, hname⟩
  have harguments := arguments_eq_of_steps hsteps
  have hmem : call.arguments ∈ shared.calls.map (·.arguments) := List.mem_map_of_mem hcall
  rw [harguments] at hmem
  simpa [start] using hmem

/-- When all calls are over, what any of them can unlock has been unlocked. -/
theorem unlocked_of_isFinished (hsteps : Steps policy (start initial calls) shared)
    (hfinished : shared.IsFinished) (hcall : arguments ∈ calls)
    (hname : name ∈ policy.unlockedBy arguments) : Unlocked policy shared.calls name := by
  have harguments := arguments_eq_of_steps hsteps
  have hmem : arguments ∈ (start initial calls).calls.map (·.arguments) := by
    simpa [start] using hcall
  rw [← harguments] at hmem
  obtain ⟨call, hshared, rfl⟩ := List.mem_map.mp hmem
  exact ⟨call, hshared, hfinished call hshared, hname⟩

/-- Calls that have not ended yet can be made to end, one after the other. -/
theorem exists_steps_isFinished (policy : Policy) (session : Session)
    (before calls : List OngoingCall) (hbefore : ∀ call ∈ before, call.stage = .finished) :
    ∃ final, Steps policy ⟨session, before ++ calls⟩ final ∧ final.IsFinished := by
  induction calls generalizing session before with
  | nil => exact ⟨_, .refl, by simpa [IsFinished] using hbefore⟩
  | cons call rest ih =>
      -- Once the first of the calls has ended, it counts among those before the rest.
      obtain ⟨arguments, stage⟩ := call
      have hlonger : ∀ call ∈ before ++ [⟨arguments, .finished⟩], call.stage = .finished := by
        intro call hcall
        rcases List.mem_append.mp hcall with hcall | hcall
        · exact hbefore call hcall
        · rw [List.mem_singleton.mp hcall]
      have hrest (session : Session) : ∃ final,
          Steps policy ⟨session, before ++ ⟨arguments, .finished⟩ :: rest⟩ final ∧
            final.IsFinished := by
        rw [List.append_cons]
        exact ih session _ hlonger
      cases stage with
      | waiting =>
          obtain ⟨final, hsteps, hfinished⟩ := hrest _
          exact ⟨final, .head .look (.head .add hsteps), hfinished⟩
      | looked snapshot =>
          obtain ⟨final, hsteps, hfinished⟩ := hrest _
          exact ⟨final, .head .add hsteps, hfinished⟩
      | finished => exact hrest session

/-! ## Calls one after the other -/

/-- A conversation after calls of the search, each of which has ended when the next one begins. -/
def callAll (conversation : Conversation) (calls : List String) : Conversation :=
  calls.foldl (fun conversation arguments => (searchTool.call arguments conversation).2)
    conversation

/-- A call on its own looks at the session and adds to it at once. -/
theorem call_eq (conversation : Conversation) (arguments : String) :
    (searchTool.call arguments conversation).2 =
      { conversation with
        session := (SearchAnswer.ofCall conversation.policy conversation.session arguments).addTo
          conversation.session } := rfl

/-- Calls one after the other unlock what all of them can unlock. -/
theorem callAll_eq (policy : Policy) (session : Session) (calls : List String) :
    callAll ⟨policy, session⟩ calls = ⟨policy, sessionAfter policy session calls⟩ := by
  induction calls generalizing session with
  | nil => rfl
  | cons arguments rest ih =>
      have hstep : callAll ⟨policy, session⟩ (arguments :: rest) = callAll
          ⟨policy, (SearchAnswer.ofCall policy session arguments).addTo session⟩ rest :=
        congrArg (callAll · rest) (call_eq ⟨policy, session⟩ arguments)
      rw [hstep, ih]
      have hsession : sessionAfter policy
          ((SearchAnswer.ofCall policy session arguments).addTo session) rest =
          sessionAfter policy session (arguments :: rest) := by
        apply Session.eq_of_contains_iff
        intro name
        rw [contains_sessionAfter, contains_sessionAfter,
          SearchAnswer.contains_addTo (Session.le_refl session), List.exists_mem_cons_iff, or_assoc]
      rw [hsession]

/-- The order of the calls makes no difference to what is unlocked in the end. -/
theorem sessionAfter_perm {order : List String} (h : order.Perm calls) :
    sessionAfter policy initial order = sessionAfter policy initial calls := by
  apply Session.eq_of_contains_iff
  intro name
  simp only [contains_sessionAfter, h.mem_iff]

/-! ## The main statement -/

/-- Whatever the order of the steps of calls that share a session, it only grows, never beyond the
session after all calls, and this is the session when all calls are over; they can always be brought
to their end, and calls one after the other have the same effect. What is unlocked are the hits of
the calls that are not always shown. Calls that find nothing add nothing. -/
theorem session_of_interleaving (policy : Policy) (initial : Session) (calls : List String) :
    (∀ shared, Steps policy (start initial calls) shared →
      initial ≤ shared.session ∧ shared.session ≤ sessionAfter policy initial calls ∧
        (shared.IsFinished → shared.session = sessionAfter policy initial calls) ∧
        ∃ final, Steps policy shared final ∧ final.IsFinished) ∧
    (∀ order : List String, order.Perm calls →
      callAll ⟨policy, initial⟩ order = ⟨policy, sessionAfter policy initial calls⟩) ∧
    (∀ name snapshot, (sessionAfter policy initial calls).contains name ↔
      initial.contains name ∨ ∃ arguments ∈ calls, ∃ request outcome,
        decodeArguments SearchRequest.decoder arguments = .ok request ∧
        policy.search request snapshot = .ok outcome ∧
        (∃ hit ∈ outcome.hits, hit.name = name) ∧ name ∉ policy.settings.alwaysInclude) ∧
    ∀ arguments, policy.FindsNothing arguments → ∀ snapshot session,
      (SearchAnswer.ofCall policy snapshot arguments).addTo session = session := by
  refine ⟨fun shared hsteps => ?_, fun order hperm => ?_, fun name snapshot => ?_,
    fun arguments hnothing snapshot session => ?_⟩
  · have hinvariant := (invariant_start policy initial calls).steps hsteps
    have hlower : initial ≤ shared.session :=
      fun name hname => (hinvariant.contains_iff name).mpr (.inl hname)
    have hupper : shared.session ≤ sessionAfter policy initial calls := by
      intro name hname
      rw [contains_sessionAfter]
      exact ((hinvariant.contains_iff name).mp hname).imp_right
        (exists_unlockedBy_of_unlocked hsteps)
    refine ⟨hlower, hupper, fun hfinished => ?_, exists_steps_isFinished policy _ [] _ (by simp)⟩
    apply Session.eq_of_contains_iff
    intro name
    refine ⟨hupper name, fun hname => ?_⟩
    rw [hinvariant.contains_iff]
    rw [contains_sessionAfter] at hname
    exact hname.imp_right fun ⟨_, hcall, hunlock⟩ =>
      unlocked_of_isFinished hsteps hfinished hcall hunlock
  · rw [callAll_eq, sessionAfter_perm hperm]
  · simp only [contains_sessionAfter, Policy.mem_unlockedBy snapshot]
  · have hnone : (SearchAnswer.ofCall policy snapshot arguments).additions? = none :=
      SearchAnswer.additions_eq_none (Policy.unlockedBy_eq_nil hnothing)
    rw [SearchAnswer.addTo, hnone]

/-- A call that begins and ends while an equal one searches, next to a call without arguments. -/
theorem session_of_nested_calls :
    let query := "\x7b\"query\": \"message\"\x7d"
    ∃ shared, Steps mailPolicy (start {} [query, query, ""]) shared ∧ shared.IsFinished ∧
      shared.session = (callAll ⟨mailPolicy, {}⟩ ["", query, query]).session ∧
      shared.session.contains mailTool.name ∧
      (SearchAnswer.ofCall mailPolicy {} "").addTo shared.session = shared.session := by
  intro query
  -- The first call adds last, and what it has looked at is the session of the beginning.
  let snapshot : Session := {}
  let early := (SearchAnswer.ofCall mailPolicy snapshot query).addTo snapshot
  let other := (SearchAnswer.ofCall mailPolicy early "").addTo early
  let late := (SearchAnswer.ofCall mailPolicy snapshot query).addTo other
  let shared : SharedSession :=
    ⟨late, [⟨query, .finished⟩, ⟨query, .finished⟩, ⟨"", .finished⟩]⟩
  have hsteps : Steps mailPolicy (start {} [query, query, ""]) shared :=
    .head (@Step.look _ snapshot query [] _) <|
    .head (@Step.look _ snapshot query [⟨query, .looked snapshot⟩] _) <|
    .head (@Step.add _ snapshot snapshot query [⟨query, .looked snapshot⟩] _) <|
    .head (@Step.look _ early "" [⟨query, .looked snapshot⟩, ⟨query, .finished⟩] []) <|
    .head (@Step.add _ early early "" [⟨query, .looked snapshot⟩, ⟨query, .finished⟩] []) <|
    .single (@Step.add _ other snapshot query [] [⟨query, .finished⟩, ⟨"", .finished⟩])
  have hfinished : shared.IsFinished := by simp [IsFinished, shared]
  have horder : ["", query, query].Perm [query, query, ""] :=
    (List.Perm.swap query "" [query]).trans (.cons query (.swap query "" []))
  have hrequest : decodeArguments SearchRequest.decoder query = .ok { query := "message" } := by
    decide +kernel
  have hbad : mailPolicy.FindsNothing "" := by
    have herror : (decodeArguments SearchRequest.decoder "").isOk = false := by decide +kernel
    cases hdecoded : decodeArguments SearchRequest.decoder "" with
    | error complaint => exact .badArguments hdecoded
    | ok request =>
        rw [hdecoded] at herror
        cases herror
  obtain ⟨score, hhits⟩ := mailPolicy_hitsOf
  obtain ⟨text, hsearch⟩ := Policy.search_of_hitsOf_ok hhits snapshot
  obtain ⟨hruns, horders, hcontains, hnothing⟩ :=
    session_of_interleaving mailPolicy {} [query, query, ""]
  have hsession := (hruns shared hsteps).2.2.1 hfinished
  refine ⟨shared, hsteps, hfinished, ?_, ?_, hnothing "" hbad {} shared.session⟩
  · rw [hsession, horders ["", query, query] horder]
  · rw [hsession, hcontains mailTool.name snapshot]
    exact .inr ⟨query, List.mem_cons_self, _, _, hrequest, hsearch,
      ⟨_, List.mem_cons_self, rfl⟩, List.not_mem_nil⟩

end SharedSession

end ToolDiscovery
