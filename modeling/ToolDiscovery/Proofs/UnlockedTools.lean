import ToolDiscovery.Proofs.ShownTools

/-!
# What a search reports as unlocked

A search reports those of its hits that are neither always shown nor in its session, and says so if
there are none: `Policy.mem_unlocked` and `Policy.saysAllKnown_iff`. If tools are hidden, the
names that it reports are exactly those that were not shown before. If they are not, all of them
were: `Policy.unlocked_by_visibility` and, for a single tool, `Policy.unlocked_though_shown`.
-/

namespace ToolDiscovery

/-- A text that ends by saying that nothing has been unlocked. -/
def SaysAllKnown (text : String) : Prop :=
  ∃ before, text = before ++ "\nAll matching tools were already available."

/-- If the last part of such a text is long enough, it ends in the same words. -/
theorem SaysAllKnown.endsWith {start ending : String} (h : SaysAllKnown (start ++ ending))
    (hlong : "\nAll matching tools were already available.".toList.length ≤ ending.toList.length) :
    "\nAll matching tools were already available.".toList <:+ ending.toList := by
  obtain ⟨before, hbefore⟩ := h
  have hlist := congrArg String.toList hbefore
  rw [String.toList_append, String.toList_append] at hlist
  exact List.suffix_of_suffix_length_le (hlist.symm ▸ List.suffix_append _ _)
    (List.suffix_append _ _) hlong

namespace Policy

variable {policy start : Policy} {indexed : IndexedCatalog} {catalog : List ToolDefinition}
  {settings : Settings} {contextWindow? : Option Nat} {request : SearchRequest}
  {session : Session} {outcome : SearchOutcome} {hits : List Hit} {name : String}

/-! ## Reports -/

/-- A search reports the hits that could not be seen without regard to whether tools are hidden. -/
theorem mem_unlocked (h : policy.search request session = .ok outcome) :
    name ∈ outcome.unlocked ↔
      ¬ policy.isVisible session name ∧ ∃ hit ∈ outcome.hits, hit.name = name := by
  have hunlocked : outcome.unlocked =
      (unlockHits policy.settings.alwaysInclude outcome.hits session).2 := by rw [(search_ok h).2]
  rw [hunlocked, mem_unlockHits_names, mem_unlockable, isVisible_iff]
  tauto

theorem search_text (h : policy.search request session = .ok outcome) :
    outcome.text = policy.reportOf request outcome.hits outcome.unlocked := by
  rw [search_eq] at h
  cases hhits : policy.hitsOf request with
  | error error =>
      rw [hhits] at h
      cases h
  | ok hits =>
      rw [hhits] at h
      cases h
      rfl

/-- Only a query that is not blank finds tools, and only in an index. -/
theorem exists_index_of_hits (h : policy.hitsOf request = .ok hits) (hfound : hits ≠ []) :
    Text.isBlankText request.query = false ∧ ∃ indexed, policy.indexed? = some indexed ∧
      indexed.index.search request.query (policy.modeOf request) (policy.limitOf request) =
        .ok hits := by
  cases hblank : Text.isBlankText request.query with
  | true =>
      rw [hitsOf, if_pos hblank] at h
      exact absurd (Except.ok.inj h).symm hfound
  | false =>
      cases hindexed : policy.indexed? with
      | none =>
          rw [hitsOf_of_new hindexed] at h
          exact absurd (Except.ok.inj h).symm hfound
      | some indexed =>
          simp only [hitsOf, hblank, hindexed, Bool.false_eq_true, if_false] at h
          exact ⟨rfl, indexed, rfl, h⟩

/-- A search that finds tools has an index and reports its hits. -/
theorem reportOf_of_hits (h : policy.hitsOf request = .ok hits) (hfound : hits ≠ [])
    (unlocked : List String) :
    ∃ indexed, policy.indexed? = some indexed ∧
      policy.reportOf request hits unlocked =
        SearchReport.found indexed.index request.query (policy.modeOf request) hits unlocked := by
  obtain ⟨hblank, indexed, hindexed, -⟩ := exists_index_of_hits h hfound
  have hsome : hits.isEmpty = false := by simpa using hfound
  refine ⟨indexed, hindexed, ?_⟩
  rw [reportOf_of_indexed hblank hindexed, hsome]
  rfl

/-- A search that finds tools says that all were known exactly if it has unlocked none. -/
theorem saysAllKnown_iff (h : policy.search request session = .ok outcome)
    (hfound : outcome.hits ≠ []) : SaysAllKnown outcome.text ↔ outcome.unlocked = [] := by
  obtain ⟨indexed, -, hreport⟩ := reportOf_of_hits (search_ok h).1 hfound outcome.unlocked
  rw [search_text h, hreport]
  cases outcome.unlocked with
  | nil => exact iff_of_true ⟨_, rfl⟩ rfl
  | cons first rest =>
      -- The names stand before a last line of fixed words, and these are other ones.
      refine iff_of_false (fun hknown => ?_) (List.cons_ne_nil _ _)
      rw [SearchReport.found, SearchReport.trailer, List.isEmpty_cons, if_neg Bool.false_ne_true,
        ← String.append_assoc] at hknown
      exact absurd (hknown.endsWith (by decide)) (by decide)

/-- A search says so if all of its hits could be seen before. -/
theorem saysAllKnown_of_visible (h : policy.search request session = .ok outcome)
    (hfound : outcome.hits ≠ [])
    (hknown : ∀ hit ∈ outcome.hits, policy.isVisible session hit.name) :
    SaysAllKnown outcome.text := by
  rw [saysAllKnown_iff h hfound, List.eq_nil_iff_forall_not_mem]
  intro name hname
  obtain ⟨hhidden, hit, hhit, rfl⟩ := (mem_unlocked h).mp hname
  exact hhidden (hknown hit hhit)

/-! ## Reports and what is shown -/

/-- Of the tools that can be searched for, those are shown among hidden ones that are visible. -/
theorem exists_shown_iff (h : name ∈ (searchableTools catalog).map (·.name)) :
    (∃ tool ∈ policy.shownTools true catalog session ++ [searchToolDefinition], tool.name = name) ↔
      policy.isVisible session name := by
  obtain ⟨tool, htool, rfl⟩ := List.mem_map.mp h
  obtain ⟨hcatalog, hname⟩ := List.mem_filter.mp htool
  have hother : tool.name ≠ searchToolName := of_decide_eq_true hname
  constructor
  · rintro ⟨shown, hshown, hsame⟩
    rcases List.mem_append.mp hshown with hkept | hsearch
    · rw [← hsame]
      exact (mem_shownTools.mp hkept).2.2.resolve_left Bool.true_eq_false.mp
    · rw [List.mem_singleton.mp hsearch] at hsame
      exact absurd hsame.symm hother
  · intro hvisible
    exact ⟨tool, List.mem_append_left _ (mem_shownTools.mpr ⟨hcatalog, hother, .inr hvisible⟩), rfl⟩

/-- A search never reports a name as unlocked that is always shown or in its session, and says that
all was known if its hits are. If tools are hidden, this is to say that it reports no tool that was
shown before, and says so if all hits were. If tools are not hidden, all that it reports was shown
before. -/
theorem unlocked_by_visibility (hstart : ofSettings settings contextWindow? = .ok start)
    (hindex : start.ensureIndex catalog = .ok (indexed, policy))
    (hsearch : policy.search request session = .ok outcome) :
    ∃ shown, policy.filterTools catalog session = .ok (shown, policy) ∧
      (∀ name ∈ outcome.unlocked,
        name ∉ policy.settings.alwaysInclude ∧ ¬ session.contains name) ∧
      (outcome.hits ≠ [] →
        (∀ hit ∈ outcome.hits,
          hit.name ∈ policy.settings.alwaysInclude ∨ session.contains hit.name) →
        SaysAllKnown outcome.text) ∧
      (policy.isDeferred? = some true →
        (∀ tool ∈ shown.tools, tool.name ∉ outcome.unlocked) ∧
        (outcome.hits ≠ [] →
          (∀ hit ∈ outcome.hits, ∃ tool ∈ shown.tools, tool.name = hit.name) →
          SaysAllKnown outcome.text)) ∧
      (policy.isDeferred? = some false →
        ∀ name ∈ outcome.unlocked, ∃ tool ∈ shown.tools, tool.name = name) := by
  have hnew : start.indexed? = none := by rw [eq_of_ofSettings hstart]
  obtain ⟨rfl, rfl⟩ := eq_of_ensureIndex hnew hindex
  have hindexed : (start.indexedWith catalog).indexed? = some (start.indexOf catalog) := rfl
  have hdeferred := isDeferred?_of_indexed hindexed
  have hhits : ∀ hit ∈ outcome.hits, hit.name ∈ (searchableTools catalog).map (·.name) := by
    rw [← names_indexOf start catalog]
    exact (hitsOf_of_indexed hindexed (search_ok hsearch).1).2
  refine ⟨_, filterTools_of_indexed hindexed catalog session, fun name hname => ?_,
    fun hfound hknown => ?_, fun hhidden => ⟨fun tool htool hname => ?_, fun hfound hshown => ?_⟩,
    fun hdirect name hname => ?_⟩
  · obtain ⟨hunseen, -⟩ := (mem_unlocked hsearch).mp hname
    rwa [isVisible_iff, not_or] at hunseen
  · exact saysAllKnown_of_visible hsearch hfound fun hit hhit => isVisible_iff.mpr (hknown hit hhit)
  · rw [Option.some.inj (hdeferred.symm.trans hhidden)] at htool
    obtain ⟨hunseen, hit, hhit, hsame⟩ := (mem_unlocked hsearch).mp hname
    exact hunseen ((exists_shown_iff (hsame ▸ hhits hit hhit)).mp ⟨tool, htool, rfl⟩)
  · rw [Option.some.inj (hdeferred.symm.trans hhidden)] at hshown
    exact saysAllKnown_of_visible hsearch hfound fun hit hhit =>
      (exists_shown_iff (hhits hit hhit)).mp (hshown hit hhit)
  · rw [Option.some.inj (hdeferred.symm.trans hdirect), shownTools_direct]
    obtain ⟨-, hit, hhit, rfl⟩ := (mem_unlocked hsearch).mp hname
    obtain ⟨tool, htool, hsame⟩ := List.mem_map.mp (hhits hit hhit)
    exact ⟨tool, List.mem_append_left _ htool, hsame⟩

/-- A hidden tool is reported when it is found for the first time, and known when it is found
again. -/
theorem unlocked_by_visibility_mail :
    let start : Policy := { settings := mailPolicy.settings, contextWindow? := none }
    ofSettings mailPolicy.settings none = .ok start ∧
      start.ensureIndex [mailTool] = .ok (mailCatalog, mailPolicy) ∧
      ∃ first shown again,
        mailPolicy.search { query := "message" } {} = .ok first ∧
        mailPolicy.filterTools [mailTool] {} = .ok (shown, mailPolicy) ∧
        mailTool.name ∈ first.unlocked ∧ (∀ tool ∈ shown.tools, tool.name ∉ first.unlocked) ∧
        mailPolicy.search { query := "message" } (.ofNames [mailTool.name]) = .ok again ∧
        SaysAllKnown again.text := by
  intro start
  have hstart : ofSettings mailPolicy.settings none = .ok start := rfl
  have hindex : start.ensureIndex [mailTool] = .ok (mailCatalog, mailPolicy) :=
    ensureIndex_of_fits rfl (by decide)
  obtain ⟨score, hhits⟩ := mailPolicy_hitsOf
  obtain ⟨text, hfirst⟩ := search_of_hitsOf_ok hhits {}
  obtain ⟨textAgain, hagain⟩ := search_of_hitsOf_ok hhits (.ofNames [mailTool.name])
  obtain ⟨shown, hshown, -, -, hhidden, -⟩ := unlocked_by_visibility hstart hindex hfirst
  obtain ⟨-, -, -, hknown, -, -⟩ := unlocked_by_visibility hstart hindex hagain
  refine ⟨hstart, hindex, _, shown, _, hfirst, hshown, ?_, (hhidden rfl).1, hagain, ?_⟩
  · exact (mem_unlocked hfirst).mpr ⟨by decide, _, .head _, rfl⟩
  · refine hknown (List.cons_ne_nil _ _) fun hit hhit => ?_
    rw [List.mem_singleton.mp hhit]
    exact .inr (show (Session.ofNames [mailTool.name]).contains mailTool.name by decide)

/-- A policy that hides nothing reports a tool as unlocked although it is shown, and says that all
was known neither then nor when nothing has been found. -/
theorem unlocked_though_shown :
    let settings : Settings := { defaultMode := .bm25, forceDeferred := some false }
    ∃ start indexed policy shown outcome blank,
      ofSettings settings none = .ok start ∧
      start.ensureIndex [mailTool] = .ok (indexed, policy) ∧
      policy.filterTools [mailTool] {} = .ok (shown, policy) ∧
      policy.search { query := "message" } {} = .ok outcome ∧
      mailTool ∈ shown.tools ∧ mailTool.name ∈ outcome.unlocked ∧
      (∀ hit ∈ outcome.hits, ∃ tool ∈ shown.tools, tool.name = hit.name) ∧
      ¬ SaysAllKnown outcome.text ∧
      policy.search { query := "" } {} = .ok blank ∧ blank.hits = [] ∧
      ¬ SaysAllKnown blank.text := by
  intro settings
  let start : Policy := { settings, contextWindow? := none }
  have hindex : start.ensureIndex [mailTool] =
      .ok (start.indexOf [mailTool], start.indexedWith [mailTool]) :=
    ensureIndex_of_fits rfl (by decide)
  have hindexed : (start.indexedWith [mailTool]).indexed? = some (start.indexOf [mailTool]) := rfl
  have hsame : (start.indexedWith [mailTool]).hitsOf { query := "message" } =
    mailPolicy.hitsOf { query := "message" } := rfl
  obtain ⟨score, hhits⟩ := mailPolicy_hitsOf
  obtain ⟨text, hsearch⟩ := search_of_hitsOf_ok (hsame.trans hhits) {}
  have hunlocked : mailTool.name ∈
      ((start.indexedWith [mailTool]).outcomeOf {} text [⟨mailTool.name, score⟩]).unlocked :=
    (mem_unlocked hsearch).mpr ⟨by decide, _, .head _, rfl⟩
  refine ⟨start, _, _, _, _, { text := SearchReport.blankQuery, session := {} }, rfl, hindex,
    filterTools_of_indexed hindexed [mailTool] {}, hsearch, ?_, hunlocked, ?_, ?_, rfl, rfl, ?_⟩
  · exact List.mem_append_left _ (mem_shownTools.mpr ⟨.head _, by decide, .inl rfl⟩)
  · intro hit hhit
    rw [List.mem_singleton.mp hhit]
    exact ⟨mailTool, List.mem_append_left _ (mem_shownTools.mpr ⟨.head _, by decide, .inl rfl⟩),
      rfl⟩
  · rw [saysAllKnown_iff hsearch (List.cons_ne_nil _ _)]
    exact List.ne_nil_of_mem hunlocked
  · intro hknown
    change SaysAllKnown SearchReport.blankQuery at hknown
    rw [← String.empty_append (s := SearchReport.blankQuery)] at hknown
    exact absurd (hknown.endsWith (by decide)) (by decide)

end Policy

end ToolDiscovery
