import Mathlib.Tactic.Common
import ToolDiscovery.Proofs.Searching

/-!
# One index for all calls

A policy indexes the first catalog that it is given and that is not too large. `Policy.indexing_eq`
says all that one catalog can do to it, `Policy.afterAll_eq` what has become of a new policy after
any calls, and `Policy.index_once` what follows: whether it is indexed, and what each call can still
do to it.
-/

namespace ToolDiscovery

namespace Policy

/-- A call of a policy. -/
inductive Call where
  /-- Indexes a catalog. -/
  | ensureIndex (catalog : List ToolDefinition)
  /-- Shows a part of a catalog, which is indexed before. -/
  | filterTools (catalog : List ToolDefinition) (session : Session)
  /-- Searches in what is indexed. -/
  | search (request : SearchRequest) (session : Session)

namespace Call

/-- The catalog that a call comes with. -/
def catalog? : Call → Option (List ToolDefinition)
  | .ensureIndex catalog => some catalog
  | .filterTools catalog _ => some catalog
  | .search _ _ => none

/-- What a call does with a policy. What it gives is left out. -/
def run : Call → Change Policy Unit
  | .ensureIndex catalog => discard (indexing catalog)
  | .filterTools catalog session => discard (showing catalog session)
  | .search request session => discard (searching request session)

end Call

/-- The policy that a call leaves behind, whether it fails or not. -/
def after (policy : Policy) (call : Call) : Policy := call.run.leaves policy

/-- The policy after several calls. -/
def afterAll (policy : Policy) (calls : List Call) : Policy := calls.foldl after policy

/-- An index has room for the tools of the catalog. -/
def Fits (catalog : List ToolDefinition) : Prop :=
  (searchableTools catalog).length ≤ CatalogIndex.maxTools

instance (catalog : List ToolDefinition) : Decidable (Fits catalog) := Nat.decLe _ _

variable {policy : Policy} {indexed : IndexedCatalog} {catalog : List ToolDefinition} {call : Call}

/-! ## Building an index -/

/-- What is kept of a catalog that fits. -/
def indexOf (policy : Policy) (catalog : List ToolDefinition) : IndexedCatalog :=
  let tools := searchableTools catalog
  let budget := Budget.measure tools policy.settings.threshold policy.contextWindow?
  { index := tools.foldl (fun index tool => index.push (.ofDefinition tool)) {}
    budget
    isDeferred := policy.settings.forceDeferred.getD budget.isExceeded }

/-- The policy once it has indexed a catalog. -/
def indexedWith (policy : Policy) (catalog : List ToolDefinition) : Policy :=
  { policy with indexed? := some (policy.indexOf catalog), builds := policy.builds + 1 }

theorem build_of_fits (h : Fits catalog) : policy.build catalog = .ok (policy.indexOf catalog) := by
  have hcount : ({} : CatalogIndex).size + (searchableTools catalog).length ≤
      CatalogIndex.maxTools := by
    have hsize : ({} : CatalogIndex).size = 0 := rfl
    have hle : (searchableTools catalog).length ≤ CatalogIndex.maxTools := h
    omega
  unfold build
  simp only [CatalogIndex.add_of_le Corpus.current_empty hcount]
  rfl

theorem build_of_not_fits (h : ¬ Fits catalog) :
    policy.build catalog =
      .error (.catalogTooLarge (searchableTools catalog).length CatalogIndex.maxTools) := by
  have hlt : CatalogIndex.maxTools < (searchableTools catalog).length := Nat.lt_of_not_le h
  have hcount : ({} : CatalogIndex).size + (searchableTools catalog).length =
      (searchableTools catalog).length := Nat.zero_add _
  unfold build
  simp only [CatalogIndex.add_of_lt (hcount.symm ▸ hlt), hcount]
  rfl

/-- All that indexing can do: an index is kept, and a new one is kept with its count as soon as it
has been built. If it cannot be built, the policy is as it was. -/
theorem indexing_eq (policy : Policy) (catalog : List ToolDefinition) :
    indexing catalog policy =
      match policy.indexed? with
      | some indexed => .ok indexed policy
      | none =>
        match policy.build catalog with
        | .ok indexed =>
          .ok indexed { policy with indexed? := some indexed, builds := policy.builds + 1 }
        | .error error => .error error policy := by
  unfold indexing
  rw [Change.run_get]
  cases policy.indexed? with
  | some indexed => rfl
  | none =>
      simp only
      rw [Change.run_get]
      cases policy.build catalog with
      | error error => rfl
      | ok indexed => rfl

theorem indexing_of_indexed (h : policy.indexed? = some indexed) :
    indexing catalog policy = .ok indexed policy := by
  simp only [indexing_eq, h]

theorem indexing_of_fits (hnew : policy.indexed? = none) (h : Fits catalog) :
    indexing catalog policy = .ok (policy.indexOf catalog) (policy.indexedWith catalog) := by
  simp only [indexing_eq, hnew, build_of_fits h]
  rfl

theorem indexing_of_not_fits (hnew : policy.indexed? = none) (h : ¬ Fits catalog) :
    indexing catalog policy =
      .error (.catalogTooLarge (searchableTools catalog).length CatalogIndex.maxTools) policy := by
  simp only [indexing_eq, hnew, build_of_not_fits h]

theorem ensureIndex_of_indexed (h : policy.indexed? = some indexed) :
    policy.ensureIndex catalog = .ok (indexed, policy) :=
  Change.result_of_ok (indexing_of_indexed h)

theorem ensureIndex_of_fits (hnew : policy.indexed? = none) (h : Fits catalog) :
    policy.ensureIndex catalog = .ok (policy.indexOf catalog, policy.indexedWith catalog) :=
  Change.result_of_ok (indexing_of_fits hnew h)

theorem ensureIndex_of_not_fits (hnew : policy.indexed? = none) (h : ¬ Fits catalog) :
    policy.ensureIndex catalog =
      .error (.catalogTooLarge (searchableTools catalog).length CatalogIndex.maxTools) :=
  Change.result_of_error (indexing_of_not_fits hnew h)

/-- Only a catalog that fits is indexed, so there is one way to have indexed it. -/
theorem eq_of_ensureIndex {later : Policy} (hnew : policy.indexed? = none)
    (h : policy.ensureIndex catalog = .ok (indexed, later)) :
    indexed = policy.indexOf catalog ∧ later = policy.indexedWith catalog := by
  by_cases hfits : Fits catalog
  · rw [ensureIndex_of_fits hnew hfits] at h
    cases h
    exact ⟨rfl, rfl⟩
  · rw [ensureIndex_of_not_fits hnew hfits] at h
    cases h

/-! ## Showing a catalog -/

/-- Once the catalog has been indexed, showing it succeeds and changes nothing more. -/
theorem showing_of_indexing {later : Policy} (h : indexing catalog policy = .ok indexed later)
    (session : Session) : ∃ visible, showing catalog session policy = .ok visible later :=
  ⟨_, Change.run_bind _ h⟩

theorem showing_of_indexing_error {later : Policy} {error : DiscoveryError}
    (h : indexing catalog policy = .error error later) (session : Session) :
    showing catalog session policy = .error error later :=
  Change.run_bind_of_error _ h

theorem leaves_showing (policy : Policy) (catalog : List ToolDefinition) (session : Session) :
    (showing catalog session).leaves policy = (indexing catalog).leaves policy := by
  cases hindexing : indexing catalog policy with
  | ok indexed later =>
      obtain ⟨visible, hshowing⟩ := showing_of_indexing hindexing session
      rw [Change.leaves_of_ok hshowing, Change.leaves_of_ok hindexing]
  | error error later =>
      rw [Change.leaves_of_error (showing_of_indexing_error hindexing session),
        Change.leaves_of_error hindexing]

theorem filterTools_of_not_fits (hnew : policy.indexed? = none) (h : ¬ Fits catalog)
    (session : Session) :
    policy.filterTools catalog session =
      .error (.catalogTooLarge (searchableTools catalog).length CatalogIndex.maxTools) :=
  Change.result_of_error (showing_of_indexing_error (indexing_of_not_fits hnew h) session)

/-- What a policy with an index shows of a catalog. The policy stays as it is. -/
theorem filterTools_of_indexed (h : policy.indexed? = some indexed)
    (catalog : List ToolDefinition) (session : Session) :
    policy.filterTools catalog session =
      .ok ({
        tools := policy.shownTools indexed.isDeferred catalog session ++ [searchToolDefinition]
        promptAddition? := if indexed.isDeferred then some searchPrompt else none }, policy) := by
  have hdeferred : policy.isDeferred?.getD false = indexed.isDeferred := by
    rw [isDeferred?, h]
    rfl
  rw [← hdeferred]
  exact Change.result_of_ok (Change.run_bind _ (indexing_of_indexed h))

/-! ## One call -/

/-- A call with a catalog does to the policy what indexing the catalog does. -/
theorem after_of_catalog (h : call.catalog? = some catalog) :
    policy.after call = (indexing catalog).leaves policy := by
  cases call with
  | ensureIndex other =>
      cases h
      exact Change.leaves_discard _ policy
  | filterTools other session =>
      cases h
      exact (Change.leaves_discard _ policy).trans (leaves_showing policy catalog session)
  | search request session => cases h

/-- A call without a catalog leaves the policy as it is. -/
theorem after_of_catalog_none (h : call.catalog? = none) : policy.after call = policy := by
  cases call with
  | ensureIndex catalog => cases h
  | filterTools catalog session => cases h
  | search request session =>
      exact (Change.leaves_discard _ policy).trans (leaves_searching policy request session)

/-- No call changes a policy that has an index. -/
theorem after_of_indexed (h : policy.indexed? = some indexed) (call : Call) :
    policy.after call = policy := by
  cases hcatalog : call.catalog? with
  | none => exact after_of_catalog_none hcatalog
  | some catalog =>
      rw [after_of_catalog hcatalog, Change.leaves_of_ok (indexing_of_indexed h)]

theorem after_of_fits (hnew : policy.indexed? = none) (hcatalog : call.catalog? = some catalog)
    (h : Fits catalog) : policy.after call = policy.indexedWith catalog := by
  rw [after_of_catalog hcatalog, Change.leaves_of_ok (indexing_of_fits hnew h)]

theorem after_of_not_fits (hnew : policy.indexed? = none) (hcatalog : call.catalog? = some catalog)
    (h : ¬ Fits catalog) : policy.after call = policy := by
  rw [after_of_catalog hcatalog, Change.leaves_of_error (indexing_of_not_fits hnew h)]

/-! ## Any calls -/

/-- No calls change a policy that has an index. -/
theorem afterAll_of_indexed (h : policy.indexed? = some indexed) (calls : List Call) :
    policy.afterAll calls = policy := by
  induction calls with
  | nil => rfl
  | cons call rest ih =>
      show (policy.after call).afterAll rest = policy
      rw [after_of_indexed h, ih]

/-- The catalog of a call, if it can be indexed. -/
def Call.fitting? (call : Call) : Option (List ToolDefinition) := call.catalog?.filter (Fits ·)

theorem Call.fitting?_eq_some :
    call.fitting? = some catalog ↔ call.catalog? = some catalog ∧ Fits catalog := by
  rw [fitting?, Option.filter_eq_some_iff, decide_eq_true_iff]

/-- A policy that has no index gets one from the first call with a catalog that fits, and stays as
it is if there is none. -/
theorem afterAll_eq (hnew : policy.indexed? = none) (calls : List Call) :
    policy.afterAll calls =
      match calls.findSome? Call.fitting? with
      | none => policy
      | some catalog => policy.indexedWith catalog := by
  induction calls with
  | nil => rfl
  | cons call rest ih =>
      show (policy.after call).afterAll rest = _
      rw [List.findSome?_cons]
      cases hfitting : call.fitting? with
      | some catalog =>
          have hcall := Call.fitting?_eq_some.mp hfitting
          rw [after_of_fits hnew hcall.1 hcall.2]
          exact afterAll_of_indexed rfl rest
      | none =>
          -- A call without a catalog and a refused one are alike: the policy is still new.
          have hafter : policy.after call = policy := by
            cases hcatalog : call.catalog? with
            | none => exact after_of_catalog_none hcatalog
            | some catalog =>
                refine after_of_not_fits hnew hcatalog fun hfits => ?_
                rw [Call.fitting?_eq_some.mpr ⟨hcatalog, hfits⟩] at hfitting
                cases hfitting
          rw [hafter]
          exact ih

/-- The call comes with a catalog that can be indexed. -/
def Call.HasFitting (call : Call) : Prop := ∃ catalog, call.catalog? = some catalog ∧ Fits catalog

theorem findSome?_fitting?_eq_none {calls : List Call} :
    calls.findSome? Call.fitting? = none ↔ ∀ call ∈ calls, ¬ call.HasFitting := by
  rw [List.findSome?_eq_none_iff]
  refine forall₂_congr fun call _ => ?_
  rw [Option.eq_none_iff_forall_ne_some]
  simp only [Call.HasFitting, not_exists, ← Call.fitting?_eq_some, ne_eq]

theorem afterAll_of_first {earlier later : List Call} (hnew : policy.indexed? = none)
    (hearlier : ∀ other ∈ earlier, ¬ other.HasFitting) (hcatalog : call.catalog? = some catalog)
    (h : Fits catalog) :
    policy.afterAll (earlier ++ call :: later) = policy.indexedWith catalog := by
  rw [afterAll_eq hnew, List.findSome?_append, findSome?_fitting?_eq_none.mpr hearlier,
    List.findSome?_cons, Call.fitting?_eq_some.mpr ⟨hcatalog, h⟩]
  rfl

/-- A new policy has the given settings and no index. -/
theorem eq_of_ofSettings {settings : Settings} {contextWindow? : Option Nat}
    (h : ofSettings settings contextWindow? = .ok policy) :
    policy = { settings, contextWindow? } := by
  unfold ofSettings at h
  cases hcheck : settings.check with
  | error fault =>
      rw [hcheck] at h
      cases h
  | ok checked =>
      rw [hcheck] at h
      cases h
      rfl

/-- A new policy is as it was made until a call comes with a catalog that fits, and indexed from
then on. -/
theorem afterAll_cases (hnew : policy.indexed? = none) (calls : List Call) :
    (policy.afterAll calls = policy ∧ ∀ call ∈ calls, ¬ call.HasFitting) ∨
      ∃ catalog, policy.afterAll calls = policy.indexedWith catalog ∧
        ∃ call ∈ calls, call.HasFitting := by
  cases hfirst : calls.findSome? Call.fitting? with
  | none =>
      refine .inl ⟨?_, findSome?_fitting?_eq_none.mp hfirst⟩
      rw [afterAll_eq hnew, hfirst]
  | some catalog =>
      obtain ⟨call, hcall, hfitting⟩ := List.exists_of_findSome?_eq_some hfirst
      refine .inr ⟨catalog, ?_, call, hcall, catalog, Call.fitting?_eq_some.mp hfitting⟩
      rw [afterAll_eq hnew, hfirst]

/-- A policy indexes at most one catalog: the first one that fits. As long as there has been none,
every other catalog is refused and the policy stays as it was made. From then on every catalog is
accepted, and the policy keeps the index, the budget and the decision of the first one. -/
theorem index_once {settings : Settings} {contextWindow? : Option Nat}
    (h : ofSettings settings contextWindow? = .ok policy) (calls : List Call) :
    let now := policy.afterAll calls
    (now.builds = 0 ∨ now.builds = 1) ∧
    (now.isIndexed ↔ now.builds = 1) ∧
    (now.builds = 1 ↔ ∃ call ∈ calls, call.HasFitting) ∧
    ((∀ call ∈ calls, ¬ call.HasFitting) → now = policy ∧
      ∀ catalog, ¬ Fits catalog →
        now.ensureIndex catalog =
          .error (.catalogTooLarge (searchableTools catalog).length CatalogIndex.maxTools) ∧
        ∀ session, now.filterTools catalog session =
          .error (.catalogTooLarge (searchableTools catalog).length CatalogIndex.maxTools)) ∧
    (∀ earlier call later catalog, calls = earlier ++ call :: later →
      (∀ other ∈ earlier, ¬ other.HasFitting) → call.catalog? = some catalog → Fits catalog →
      ∃ indexed, policy.build catalog = .ok indexed ∧
        now = { policy with indexed? := some indexed, builds := 1 } ∧
        (∀ other, now.ensureIndex other = .ok (indexed, now)) ∧
        ∀ other session, ∃ visible, now.filterTools other session = .ok (visible, now)) ∧
    ∀ request session, now.after (.search request session) = now := by
  intro now
  have hnew : policy.indexed? = none := by rw [eq_of_ofSettings h]
  have hbuilds : policy.builds = 0 := by rw [eq_of_ofSettings h]
  have hbuilt (catalog : List ToolDefinition) : (policy.indexedWith catalog).builds = 1 := by
    rw [indexedWith, hbuilds]
  have hcases : (now = policy ∧ ∀ call ∈ calls, ¬ call.HasFitting) ∨
      ∃ catalog, now = policy.indexedWith catalog ∧ ∃ call ∈ calls, call.HasFitting :=
    afterAll_cases hnew calls
  refine ⟨?_, ?_, ?_, fun hcalls => ?_, fun earlier call later catalog hcalls hearlier hcatalog
    hfits => ?_, fun request session => after_of_catalog_none rfl⟩
  · obtain ⟨hnow, -⟩ | ⟨catalog, hnow, -⟩ := hcases
    · exact .inl (hnow ▸ hbuilds)
    · exact .inr (hnow ▸ hbuilt catalog)
  · obtain ⟨hnow, -⟩ | ⟨catalog, hnow, -⟩ := hcases
    · rw [hnow, isIndexed, hnew, hbuilds]
      simp
    · rw [hnow, hbuilt catalog]
      simp [isIndexed, indexedWith]
  · obtain ⟨hnow, hnone⟩ | ⟨catalog, hnow, hsome⟩ := hcases
    · rw [hnow, hbuilds]
      simpa using hnone
    · rw [hnow]
      exact iff_of_true (hbuilt catalog) hsome
  · have hnow : now = policy := by
      show policy.afterAll calls = policy
      rw [afterAll_eq hnew, findSome?_fitting?_eq_none.mpr hcalls]
    refine ⟨hnow, fun catalog hlarge => ?_⟩
    rw [hnow]
    exact ⟨ensureIndex_of_not_fits hnew hlarge, filterTools_of_not_fits hnew hlarge⟩
  · have hnow : now = { policy with indexed? := some (policy.indexOf catalog), builds := 1 } := by
      show policy.afterAll calls = _
      rw [hcalls, afterAll_of_first hnew hearlier hcatalog hfits, indexedWith, hbuilds]
    have hindexed : now.indexed? = some (policy.indexOf catalog) := by rw [hnow]
    refine ⟨policy.indexOf catalog, build_of_fits hfits, hnow, ?_, ?_⟩
    · intro other
      exact ensureIndex_of_indexed hindexed
    · intro other session
      exact ⟨_, filterTools_of_indexed hindexed other session⟩

/-- Catalogs that are too large leave the index to the one that comes between them. -/
theorem index_once_between_refusals :
    let large := List.replicate (CatalogIndex.maxTools + 1) mailTool
    ∃ policy indexed, ofSettings {} none = .ok policy ∧ policy.build [mailTool] = .ok indexed ∧
      policy.afterAll [.ensureIndex large] = policy ∧
      policy.afterAll [.ensureIndex large, .filterTools [mailTool] {}, .ensureIndex large] =
        { policy with indexed? := some indexed, builds := 1 } := by
  intro large
  have hpolicy : ofSettings {} none = .ok { settings := {}, contextWindow? := none } := rfl
  have hlarge : ¬ (Call.ensureIndex large).HasFitting := by
    rintro ⟨catalog, hcatalog, hfits⟩
    cases hcatalog
    have hname : decide (mailTool.name ≠ searchToolName) = true := by decide
    have hall : searchableTools large = large := by
      rw [searchableTools, List.filter_replicate, if_pos hname]
    have hle : large.length ≤ CatalogIndex.maxTools := by
      rw [← hall]
      exact hfits
    rw [List.length_replicate] at hle
    omega
  have hfits : Fits [mailTool] := by decide
  obtain ⟨-, -, -, hbefore, -⟩ := index_once hpolicy [.ensureIndex large]
  obtain ⟨-, -, -, -, hfirst, -⟩ := index_once hpolicy
    [.ensureIndex large, .filterTools [mailTool] {}, .ensureIndex large]
  obtain ⟨indexed, hbuild, hnow, -⟩ := hfirst [.ensureIndex large] (.filterTools [mailTool] {})
    [.ensureIndex large] [mailTool] rfl (by simpa using hlarge) rfl hfits
  exact ⟨_, indexed, hpolicy, hbuild, (hbefore (by simpa using hlarge)).1, hnow⟩

end Policy

end ToolDiscovery
