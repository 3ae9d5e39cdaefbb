import Mathlib
import ToolDiscovery.Proofs.IndexOnce

/-!
# When tools are hidden

A new policy decides about the first catalog that it is given. `Policy.decision_eq` says that it
looks at no more than the number of the tools and what they cost together, so that two runs with
the same costs agree: `Policy.decision_congr`. The more tools there are, the more they cost, and
`Policy.decision_by_cost` puts together when they are hidden.
-/

namespace ToolDiscovery

variable {tools other part : List ToolDefinition}

/-! ## What tools cost -/

theorem ToolDefinition.cost_eq (tool : ToolDefinition) :
    tool.cost = max 1
      ((tool.name.length + tool.description.length + tool.parameters.compact.length) / 4) := by
  rw [Json.compact, String.length_ofList]
  rfl

theorem totalCost_eq_sum (tools : List ToolDefinition) :
    totalCost tools = (tools.map ToolDefinition.cost).sum := by
  rw [List.sum_eq_foldr, List.foldr_map]
  rfl

theorem totalCost_of_perm (h : tools.Perm other) : totalCost tools = totalCost other := by
  rw [totalCost_eq_sum, totalCost_eq_sum]
  exact (h.map _).sum_nat

theorem totalCost_le_of_sublist (h : part.Sublist tools) : totalCost part ≤ totalCost tools := by
  rw [totalCost_eq_sum, totalCost_eq_sum]
  exact (h.map _).sum_le_sum fun cost _ => Nat.zero_le cost

namespace Budget

variable {threshold : Threshold} {contextWindow? : Option Nat}

theorem measure_of_perm (h : tools.Perm other) :
    measure tools threshold contextWindow? = measure other threshold contextWindow? := by
  unfold measure
  rw [h.length_eq, totalCost_of_perm h]

/-- With more tools, a catalog that costs too much still does. -/
theorem isExceeded_of_sublist (h : part.Sublist tools)
    (hpart : (measure part threshold contextWindow?).isExceeded) :
    (measure tools threshold contextWindow?).isExceeded := by
  have hlt : threshold.resolve contextWindow? < totalCost part := of_decide_eq_true hpart
  exact decide_eq_true (Nat.lt_of_lt_of_le hlt (totalCost_le_of_sublist h))

end Budget

/-! ## The decision -/

namespace Policy

variable {settings same : Settings} {contextWindow? : Option Nat}
  {catalog : List ToolDefinition}

/-- What a new policy decides about the first catalog that it is given: whether the tools are
hidden, and what they cost. -/
def decision (settings : Settings) (contextWindow? : Option Nat) (catalog : List ToolDefinition) :
    Except DiscoveryError (Option Bool × Option Budget) := do
  let start ← ofSettings settings contextWindow?
  let (_, policy) ← start.ensureIndex catalog
  return (policy.isDeferred?, policy.budget?)

/-- The budget of the tools that can be searched for. -/
def budgetOf (settings : Settings) (contextWindow? : Option Nat) (catalog : List ToolDefinition) :
    Budget :=
  .measure (searchableTools catalog) settings.threshold contextWindow?

/-- Whether the tools are hidden. -/
def hides (settings : Settings) (contextWindow? : Option Nat) (catalog : List ToolDefinition) :
    Bool :=
  settings.forceDeferred.getD (budgetOf settings contextWindow? catalog).isExceeded

theorem decision_eq (hvalid : settings.check = .ok ()) (contextWindow? : Option Nat)
    (catalog : List ToolDefinition) :
    decision settings contextWindow? catalog =
      if Fits catalog then
        .ok (some (hides settings contextWindow? catalog),
          some (budgetOf settings contextWindow? catalog))
      else .error (.catalogTooLarge (searchableTools catalog).length CatalogIndex.maxTools) := by
  have hstart : ofSettings settings contextWindow? = .ok { settings, contextWindow? } := by
    rw [ofSettings, hvalid]
    rfl
  have hnew : ({ settings, contextWindow? } : Policy).indexed? = none := rfl
  rw [decision, hstart]
  show (ensureIndex { settings, contextWindow? } catalog >>= _) = _
  by_cases hfits : Fits catalog
  · rw [ensureIndex_of_fits hnew hfits, if_pos hfits]
    rfl
  · rw [ensureIndex_of_not_fits hnew hfits, if_neg hfits]
    rfl

/-- Two runs decide the same if their settings say the same about costs, and if the same tools can
be searched for, in whatever order. -/
theorem decision_congr (hvalid : settings.check = .ok ()) (hsame : same.check = .ok ())
    (hthreshold : same.threshold = settings.threshold)
    (hforced : same.forceDeferred = settings.forceDeferred) {other : List ToolDefinition}
    (hperm : (searchableTools other).Perm (searchableTools catalog)) :
    decision same contextWindow? other = decision settings contextWindow? catalog := by
  have hfits : Fits other ↔ Fits catalog := by rw [Fits, Fits, hperm.length_eq]
  have hbudget : budgetOf same contextWindow? other = budgetOf settings contextWindow? catalog := by
    rw [budgetOf, budgetOf, hthreshold, Budget.measure_of_perm hperm]
  have hhides : hides same contextWindow? other = hides settings contextWindow? catalog := by
    rw [hides, hides, hforced, hbudget]
  rw [decision_eq hvalid, decision_eq hsame, hbudget, hhides, hperm.length_eq]
  simp only [hfits]

/-- With more tools, a catalog that is hidden still is. -/
theorem hides_of_sublist {part : List ToolDefinition} (hpart : part.Sublist catalog)
    (h : hides settings contextWindow? part) : hides settings contextWindow? catalog := by
  unfold hides at h ⊢
  cases hforced : settings.forceDeferred with
  | some forced => rwa [hforced] at h
  | none =>
      rw [hforced] at h
      exact Budget.isExceeded_of_sublist (hpart.filter _) h

/-- The tools of a catalog are hidden if the sum of what they cost exceeds the threshold, unless the
settings decide; the budget tells this sum in any case. The order of the catalog, entries that have
the name of the search itself, and settings about other things than costs do not matter. With more
tools, a catalog that is hidden still is. -/
theorem decision_by_cost (hvalid : settings.check = .ok ()) (contextWindow? : Option Nat)
    (hfits : Fits catalog) :
    let tools := catalog.filter (·.name ≠ searchToolName)
    let cost := (tools.map fun tool => max 1
      ((tool.name.length + tool.description.length + tool.parameters.compact.length) / 4)).sum
    let most := settings.threshold.resolve contextWindow?
    ∃ isDeferred : Bool,
      decision settings contextWindow? catalog = .ok (some isDeferred, some
        { toolCount := tools.length, totalTokens := cost, thresholdTokens := most }) ∧
      (settings.forceDeferred = none → (isDeferred ↔ most < cost)) ∧
      (∀ forced, settings.forceDeferred = some forced → isDeferred = forced) ∧
      (∀ other, other.Perm catalog →
        decision settings contextWindow? other = decision settings contextWindow? catalog) ∧
      (∀ other, other.filter (·.name ≠ searchToolName) = tools →
        decision settings contextWindow? other = decision settings contextWindow? catalog) ∧
      (∀ same : Settings, same.check = .ok () → same.threshold = settings.threshold →
        same.forceDeferred = settings.forceDeferred →
        decision same contextWindow? catalog = decision settings contextWindow? catalog) ∧
      ∀ part budget, part.Sublist catalog →
        decision settings contextWindow? part = .ok (some true, budget) → isDeferred := by
  intro tools cost most
  have hcost : totalCost tools = cost := by
    rw [totalCost_eq_sum]
    exact congrArg List.sum (List.map_congr_left fun tool _ => tool.cost_eq)
  have hbudget : budgetOf settings contextWindow? catalog =
      { toolCount := tools.length, totalTokens := cost, thresholdTokens := most } := by
    rw [← hcost]
    rfl
  refine ⟨hides settings contextWindow? catalog, ?_, fun hfree => ?_, fun forced hforced => ?_,
    fun other hperm => ?_, fun other hsearchable => ?_,
    fun same hsame hthreshold hforced => ?_, fun part budget hpart hhidden => ?_⟩
  · rw [decision_eq hvalid, if_pos hfits, hbudget]
  · rw [hides, hfree, hbudget]
    exact decide_eq_true_iff
  · rw [hides, hforced]
    rfl
  · exact decision_congr hvalid hvalid rfl rfl (hperm.filter _)
  · exact decision_congr hvalid hvalid rfl rfl (.of_eq hsearchable)
  · exact decision_congr hvalid hsame hthreshold hforced (.refl _)
  · have hfitsPart : Fits part := Nat.le_trans (hpart.filter _).length_le hfits
    rw [decision_eq hvalid, if_pos hfitsPart] at hhidden
    injection hhidden with hhidden
    exact hides_of_sublist hpart (Option.some.inj (Prod.mk.inj hhidden).1)

/-- A tool costs fourteen tokens, whatever stands beside it under the name of the search. -/
theorem decision_by_cost_mail :
    let settings : Settings := { threshold := .tokens 13 }
    settings.check = .ok () ∧ Fits [searchToolDefinition, mailTool, searchToolDefinition] ∧
      decision settings none [searchToolDefinition, mailTool, searchToolDefinition] =
        .ok (some true, some { toolCount := 1, totalTokens := 14, thresholdTokens := 13 }) ∧
      decision settings none [mailTool, searchToolDefinition] =
        .ok (some true, some { toolCount := 1, totalTokens := 14, thresholdTokens := 13 }) := by
  intro settings
  have hvalid : settings.check = .ok () := rfl
  have hfits : Fits [searchToolDefinition, mailTool, searchToolDefinition] := by decide
  obtain ⟨isDeferred, hdecision, hfree, -, -, hsearchable, -, -⟩ :=
    decision_by_cost hvalid none hfits
  have hdeferred : isDeferred := (hfree rfl).mpr (by decide)
  rw [hdeferred] at hdecision
  exact ⟨hvalid, hfits, hdecision, (hsearchable _ rfl).trans hdecision⟩

end Policy

end ToolDiscovery
