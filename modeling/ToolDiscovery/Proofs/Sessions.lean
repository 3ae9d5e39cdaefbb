import Mathlib.Data.List.Sort
import ToolDiscovery.Session.Basic

/-!
# Sessions as sets of names

What is known of a session is which names it contains. Each operation is described by what it does
to them, and `Session.eq_of_contains_iff` says that nothing else tells two sessions apart. Sessions
are ordered by what they contain.
-/

namespace ToolDiscovery

namespace NameSet

theorem mem_insertMany {set : NameSet} {names : List String} {name : String} :
    name ∈ set.insertMany names ↔ name ∈ set ∨ name ∈ names := by
  induction names generalizing set with
  | nil => simp [insertMany]
  | cons first rest ih =>
      have hstep : name ∈ (set.insert first).insertMany rest ↔
          name ∈ set.insert first ∨ name ∈ rest := ih
      rw [show set.insertMany (first :: rest) = (set.insert first).insertMany rest from rfl,
        hstep, mem_insert, List.mem_cons]
      tauto

theorem not_mem_empty {name : String} : name ∉ (∅ : NameSet) := List.not_mem_nil

theorem mem_ofList {names : List String} {name : String} : name ∈ ofList names ↔ name ∈ names := by
  rw [ofList, mem_insertMany]
  exact or_iff_right not_mem_empty

theorem mem_union {a b : NameSet} {name : String} : name ∈ a ∪ b ↔ name ∈ a ∨ name ∈ b :=
  mem_insertMany

/-- A set has one form only, so sets with the same members are equal. -/
theorem eq_of_mem_iff {a b : NameSet} (h : ∀ name, name ∈ a ↔ name ∈ b) : a = b := by
  apply NameSet.ext
  exact a.ascending.eq_of_mem_iff b.ascending h

end NameSet

namespace Session

variable {session other : Session} {name : String}

theorem contains_iff_mem : session.contains name ↔ name ∈ session.unlocked :=
  NameSet.contains_iff_mem

/-- Sessions that contain the same names are equal. -/
theorem eq_of_contains_iff (h : ∀ name, session.contains name ↔ other.contains name) :
    session = other := by
  apply Session.ext
  apply NameSet.eq_of_mem_iff
  intro name
  rw [← contains_iff_mem, ← contains_iff_mem]
  exact h name

theorem contains_ofNames {names : List String} : (ofNames names).contains name ↔ name ∈ names := by
  rw [contains_iff_mem]
  exact NameSet.mem_ofList

theorem contains_unlock {added : String} :
    (session.unlock added).contains name ↔ name = added ∨ session.contains name := by
  rw [contains_iff_mem, contains_iff_mem]
  exact NameSet.mem_insert

theorem contains_unlockMany {names : List String} :
    (session.unlockMany names).contains name ↔ session.contains name ∨ name ∈ names := by
  rw [contains_iff_mem, contains_iff_mem]
  exact NameSet.mem_insertMany

theorem contains_merge :
    (session.merge other).contains name ↔ session.contains name ∨ other.contains name := by
  rw [contains_iff_mem, contains_iff_mem, contains_iff_mem]
  exact NameSet.mem_union

/-! ## The order of sessions -/

/-- A session lies below another one that contains all of its names. -/
instance : LE Session := ⟨fun a b => ∀ name, a.contains name → b.contains name⟩

theorem le_refl (session : Session) : session ≤ session := fun _ h => h

theorem le_trans {a b c : Session} (hab : a ≤ b) (hbc : b ≤ c) : a ≤ c :=
  fun name h => hbc name (hab name h)

end Session

end ToolDiscovery
