/-!
# Sets of names

A `NameSet` is a set of names, kept as the ascending list of its members. So a set has one form
only, whatever the order in which its members were added.
-/

namespace ToolDiscovery

/-- A set of names. -/
@[ext]
structure NameSet where
  /-- The members in ascending order. -/
  names : List String
  /-- The members are in ascending order, each once. -/
  ascending : names.Pairwise (· < ·)
deriving DecidableEq

namespace NameSet

/-- The set without members. -/
def empty : NameSet := ⟨[], .nil⟩

instance : EmptyCollection NameSet := ⟨empty⟩

instance : Inhabited NameSet := ⟨empty⟩

/-- Puts a name in its place in an ascending list, unless it stands there already. -/
def place (name : String) : List String → List String
  | [] => [name]
  | first :: rest =>
    if name < first then name :: first :: rest
    else if name = first then first :: rest
    else first :: place name rest

theorem mem_place {name other : String} {names : List String} :
    other ∈ place name names ↔ other = name ∨ other ∈ names := by
  induction names with
  | nil => simp [place]
  | cons first rest ih =>
    rw [place]
    split
    · simp
    · split
      · rename_i h
        simp [h]
      · simp only [List.mem_cons, ih]
        exact or_left_comm

theorem ascending_place {name : String} {names : List String} (h : names.Pairwise (· < ·)) :
    (place name names).Pairwise (· < ·) := by
  induction names with
  | nil => simp [place]
  | cons first rest ih =>
    rw [List.pairwise_cons] at h
    rw [place]
    split
    · rename_i hlt
      rw [List.pairwise_cons, List.pairwise_cons]
      refine ⟨fun other hother => ?_, h⟩
      rcases List.mem_cons.mp hother with rfl | hrest
      · exact hlt
      · exact String.lt_trans hlt (h.1 other hrest)
    · split
      · exact List.pairwise_cons.mpr h
      · rename_i hle hne
        rw [List.pairwise_cons]
        refine ⟨fun other hother => ?_, ih h.2⟩
        rcases mem_place.mp hother with rfl | hrest
        · exact String.not_le.mp fun hge => hne (String.le_antisymm hge (String.not_lt.mp hle))
        · exact h.1 other hrest

/-- Adds a name. -/
def insert (set : NameSet) (name : String) : NameSet :=
  ⟨place name set.names, ascending_place set.ascending⟩

/-- Whether a name is a member. -/
def contains (set : NameSet) (name : String) : Bool := set.names.contains name

instance : Membership String NameSet := ⟨fun set name => name ∈ set.names⟩

/-- The number of members. -/
def size (set : NameSet) : Nat := set.names.length

/-- Whether there are no members. -/
def isEmpty (set : NameSet) : Bool := set.names.isEmpty

/-- Adds several names. -/
def insertMany (set : NameSet) (names : List String) : NameSet := names.foldl insert set

/-- The set of the names in a list. -/
def ofList (names : List String) : NameSet := insertMany ∅ names

/-- The set of the members of either set. -/
def union (a b : NameSet) : NameSet := a.insertMany b.names

instance : Union NameSet := ⟨union⟩

theorem mem_insert {set : NameSet} {name other : String} :
    other ∈ set.insert name ↔ other = name ∨ other ∈ set := mem_place

theorem contains_iff_mem {set : NameSet} {name : String} : set.contains name ↔ name ∈ set := by
  simp only [contains, List.contains_iff_mem]
  rfl

end NameSet

end ToolDiscovery
