import ToolDiscovery.Error

/-!
# Changes that may fail

A `Change` is a change of a state that gives a value or fails. In either case it leaves a state
behind, so that it is a matter of proof what becomes of the state when it fails.
-/

namespace ToolDiscovery

/-- A change of a state, which gives a value or fails. -/
abbrev Change (σ α : Type) := EStateM DiscoveryError σ α

namespace Change

variable {σ α β : Type} {step : Change σ α} {state next : σ} {value : α} {error : DiscoveryError}

/-- The state that a change leaves behind, whether it fails or not. -/
def leaves (step : Change σ α) (state : σ) : σ :=
  match step state with
  | .ok _ next => next
  | .error _ next => next

/-- What a change gives with the state to go on with, unless it fails. -/
def result (step : Change σ α) (state : σ) : Except DiscoveryError (α × σ) :=
  match step state with
  | .ok value next => .ok (value, next)
  | .error error _ => .error error

theorem leaves_of_ok (h : step state = .ok value next) : step.leaves state = next := by
  rw [leaves, h]

theorem leaves_of_error (h : step state = .error error next) : step.leaves state = next := by
  rw [leaves, h]

theorem result_of_ok (h : step state = .ok value next) :
    step.result state = .ok (value, next) := by
  rw [result, h]

theorem result_of_error (h : step state = .error error next) :
    step.result state = .error error := by
  rw [result, h]

theorem result_eq_ok : step.result state = .ok (value, next) ↔ step state = .ok value next := by
  unfold result
  cases step state with
  | ok value next => simp
  | error error next => simp

/-- The state does not depend on what becomes of the value. -/
theorem leaves_discard (step : Change σ α) (state : σ) :
    leaves (discard step) state = step.leaves state := by
  have hdiscard : (discard step : Change σ Unit) state =
      EStateM.map (fun _ => ()) step state := rfl
  unfold leaves
  rw [hdiscard, EStateM.map]
  cases step state with
  | ok value next => rfl
  | error error next => rfl

/-- Looking at the state changes nothing. -/
theorem run_get (rest : σ → Change σ β) (state : σ) : (get >>= rest) state = rest state state := rfl

/-- After a success the rest goes on with the state that was left behind. -/
theorem run_bind (rest : α → Change σ β) (h : step state = .ok value next) :
    (step >>= rest) state = rest value next := by
  show EStateM.bind step rest state = _
  unfold EStateM.bind
  rw [h]

/-- After a failure there is no rest. -/
theorem run_bind_of_error (rest : α → Change σ β) (h : step state = .error error next) :
    (step >>= rest) state = .error error next := by
  show EStateM.bind step rest state = _
  unfold EStateM.bind
  rw [h]

end Change

end ToolDiscovery
