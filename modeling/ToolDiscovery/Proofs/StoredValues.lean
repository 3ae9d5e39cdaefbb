import ToolDiscovery.Proofs.WrittenValues
import ToolDiscovery.Schema.Reading
import ToolDiscovery.Session.NameSet

/-!
# Values as they are stored

A value that has been read is stored: its whole numbers are in range, and the members of its objects
are in ascending order (`stored_of_value`). Every value has a canonical form with this order, and a
value that has the order is its own canonical form (`canonical_eq_self`).
-/

namespace ToolDiscovery.Json

open Schema (depthOf depthOfItems depthOfMembers)

/-! ## Parts of values -/

/-- The items of a list or the values of the members of an object. -/
def parts : Json → List Json
  | array items => items
  | object members => members.map (·.2)
  | _ => []

/-- A property of a value that all of its parts have too, at whatever depth. -/
inductive Everywhere (p : Json → Prop) : Json → Prop where
  | intro {json : Json} (here : p json) (inside : ∀ part ∈ json.parts, Everywhere p part) :
      Everywhere p json

namespace Everywhere

variable {p q : Json → Prop} {json : Json}

theorem here (h : Everywhere p json) : p json := by
  cases h with
  | intro here inside => exact here

theorem part {part : Json} (h : Everywhere p json) (hpart : part ∈ json.parts) :
    Everywhere p part := by
  cases h with
  | intro here inside => exact inside part hpart

/-- A value without parts. -/
theorem of_no_parts (h : p json) (hparts : json.parts = []) : Everywhere p json :=
  .intro h (by rw [hparts]; exact nofun)

theorem array_iff {items : List Json} :
    Everywhere p (array items) ↔ p (array items) ∧ ∀ item ∈ items, Everywhere p item :=
  ⟨fun h => ⟨h.here, fun _ hitem => h.part hitem⟩, fun h => .intro h.1 h.2⟩

theorem object_iff {members : Members} :
    Everywhere p (object members) ↔
      p (object members) ∧ ∀ member ∈ members, Everywhere p member.2 :=
  ⟨fun h => ⟨h.here, fun _ hmember => h.part (List.mem_map_of_mem hmember)⟩,
    fun h => .intro h.1 (List.forall_mem_map.mpr h.2)⟩

theorem and (hp : Everywhere p json) (hq : Everywhere q json) :
    Everywhere (fun json => p json ∧ q json) json := by
  induction hp with
  | intro here inside ih =>
      exact .intro ⟨here, hq.here⟩ fun part hpart => ih part hpart (hq.part hpart)

theorem mono (h : Everywhere p json) (himp : ∀ json, p json → q json) : Everywhere q json := by
  induction h with
  | intro here inside ih => exact .intro (himp _ here) ih

end Everywhere

theorem depthOfItems_le {items : List Json} {depth : Nat} :
    depthOfItems items ≤ depth ↔ ∀ item ∈ items, depthOf item ≤ depth := by
  induction items with
  | nil => simp [depthOfItems]
  | cons item items ih => rw [depthOfItems, Nat.max_le, ih, List.forall_mem_cons]

theorem depthOfMembers_eq (members : Members) :
    depthOfMembers members = depthOfItems (members.map (·.2)) := by
  induction members with
  | nil => rfl
  | cons member members ih => rw [List.map_cons, depthOfItems, ← ih, depthOfMembers]

theorem depthOf_le_iff {json : Json} {depth : Nat} :
    depthOf json ≤ depth + 1 ↔ ∀ part ∈ json.parts, depthOf part ≤ depth := by
  cases json with
  | array items => exact Nat.succ_le_succ_iff.trans depthOfItems_le
  | object members =>
      refine Nat.succ_le_succ_iff.trans ?_
      rw [depthOfMembers_eq]
      exact depthOfItems_le
  | null | boolean | integer | real | string => exact iff_of_true (Nat.zero_le _) nofun

/-- Brackets are nested deeper in a value than in its parts. -/
theorem depthOf_part_lt {json part : Json} (h : part ∈ json.parts) :
    depthOf part < depthOf json := by
  cases hdepth : depthOf json with
  | zero =>
      cases json with
      | array | object => cases hdepth
      | null | boolean | integer | real | string => cases h
  | succ depth => exact Nat.lt_succ_of_le (depthOf_le_iff.mp (Nat.le_of_eq hdepth) part h)

theorem depthOf_lt_of_parts {json : Json} {depth : Nat} (hdepth : 0 < depth)
    (h : ∀ part ∈ json.parts, depthOf part < depth) : depthOf json < depth + 1 := by
  obtain ⟨depth, rfl⟩ := Nat.exists_eq_succ_of_ne_zero (Nat.ne_zero_of_lt hdepth)
  exact Nat.lt_succ_of_le (depthOf_le_iff.mpr fun part hpart => Nat.le_of_lt_succ (h part hpart))

/-! ## The order of members -/

/-- Whether a value is a floating-point number. -/
def isReal : Json → Bool
  | real _ => true
  | _ => false

/-- A whole number is in the range that is kept exactly. -/
def InRange : Json → Prop
  | integer n => minInteger ≤ n ∧ n ≤ maxInteger
  | _ => True

/-- The members of an object are in ascending order, each key once. -/
def Ordered : Json → Prop
  | object members => (members.map (·.1)).Pairwise (· < ·)
  | _ => True

/-- A value as it is stored. -/
def Stored : Json → Prop := Everywhere fun json => json.InRange ∧ json.Ordered

theorem insertMember_keys (key : String) (json : Json) (members : Members) :
    (insertMember key json members).map (·.1) = NameSet.place key (members.map (·.1)) := by
  induction members with
  | nil => rfl
  | cons member members ih =>
      obtain ⟨other, value⟩ := member
      rw [List.map_cons, insertMember, NameSet.place]
      split
      · rfl
      · split
        · rename_i hsame
          rw [List.map_cons, hsame]
        · rw [List.map_cons, ih]

theorem ordered_ofMembers (members : Members) : (ofMembers members).Ordered := by
  have hfold {sorted : Members} (h : (sorted.map (·.1)).Pairwise (· < ·)) :
      ((members.foldl (fun sorted member => insertMember member.1 member.2 sorted) sorted).map
        (·.1)).Pairwise (· < ·) := by
    induction members generalizing sorted with
    | nil => exact h
    | cons member members ih =>
        rw [List.foldl_cons]
        refine ih ?_
        rw [insertMember_keys]
        exact NameSet.ascending_place h
  exact hfold .nil

theorem mem_insertMember {key : String} {json : Json} {member : String × Json} {members : Members}
    (h : member ∈ insertMember key json members) : member = (key, json) ∨ member ∈ members := by
  induction members with
  | nil => exact .inl (List.mem_singleton.mp h)
  | cons other members ih =>
      unfold insertMember at h
      split at h
      · exact List.mem_cons.mp h
      · split at h
        · rcases List.mem_cons.mp h with hsame | hmem
          · exact .inl hsame
          · exact .inr (List.mem_cons_of_mem _ hmem)
        · rcases List.mem_cons.mp h with hsame | hmem
          · exact .inr (hsame ▸ List.mem_cons_self)
          · exact (ih hmem).imp_right (List.mem_cons_of_mem _)

theorem mem_foldl_insertMember {member : String × Json} {members sorted : Members}
    (h : member ∈ members.foldl (fun sorted member => insertMember member.1 member.2 sorted)
      sorted) : member ∈ members ∨ member ∈ sorted := by
  induction members generalizing sorted with
  | nil => exact .inr h
  | cons other members ih =>
      rcases ih h with hmem | hmem
      · exact .inl (List.mem_cons_of_mem _ hmem)
      · rcases mem_insertMember hmem with rfl | hmem
        · exact .inl List.mem_cons_self
        · exact .inr hmem

/-- The parts of an object that is made of members are among these. -/
theorem mem_of_part_ofMembers {part : Json} {members : Members}
    (h : part ∈ (ofMembers members).parts) : ∃ key, (key, part) ∈ members := by
  obtain ⟨⟨key, json⟩, hmem, rfl⟩ := List.mem_map.mp h
  exact ⟨key, (mem_foldl_insertMember hmem).resolve_right List.not_mem_nil⟩

/-- A member whose key is above all others is put at the end. -/
theorem insertMember_last {key : String} {json : Json} {members : Members}
    (h : ∀ member ∈ members, member.1 < key) :
    insertMember key json members = members ++ [(key, json)] := by
  induction members with
  | nil => rfl
  | cons member members ih =>
      have hlt : member.1 < key := h member List.mem_cons_self
      have hne : key ≠ member.1 := fun hsame => String.lt_irrefl _ (hsame ▸ hlt)
      unfold insertMember
      rw [if_neg (String.lt_asymm hlt), if_neg hne,
        ih fun other hother => h other (List.mem_cons_of_mem _ hother)]
      rfl

theorem foldl_insertMember_ordered {members sorted : Members}
    (h : ((sorted ++ members).map (·.1)).Pairwise (· < ·)) :
    members.foldl (fun sorted member => insertMember member.1 member.2 sorted) sorted =
      sorted ++ members := by
  induction members generalizing sorted with
  | nil => exact (List.append_nil _).symm
  | cons member members ih =>
      have habove : ∀ other ∈ sorted, other.1 < member.1 := fun other hother => by
        rw [List.map_append, List.map_cons] at h
        exact (List.pairwise_append.mp h).2.2 _ (List.mem_map_of_mem hother) _ List.mem_cons_self
      have hsplit : sorted ++ member :: members = sorted ++ [member] ++ members := by
        rw [List.append_assoc, List.singleton_append]
      rw [List.foldl_cons, insertMember_last habove]
      rw [hsplit] at h ⊢
      exact ih h

theorem ofMembers_of_ordered {members : Members} (h : (object members).Ordered) :
    ofMembers members = object members := by
  have hmembers : (([] ++ members : Members).map (·.1)).Pairwise (· < ·) := h
  exact congrArg object (foldl_insertMember_ordered hmembers)

/-! ## Canonical forms -/

mutual

/-- A value with the members of each object in ascending order. The last one of each key counts. -/
def canonical : Json → Json
  | array items => array (canonicalItems items)
  | object members => ofMembers (canonicalMembers members)
  | null => null
  | boolean value => boolean value
  | integer value => integer value
  | real value => real value
  | string text => string text

/-- The canonical forms of the items of a list. -/
def canonicalItems : List Json → List Json
  | [] => []
  | item :: rest => canonical item :: canonicalItems rest

/-- Members with their values in canonical form. -/
def canonicalMembers : List (String × Json) → List (String × Json)
  | [] => []
  | (key, value) :: rest => (key, canonical value) :: canonicalMembers rest

end

theorem canonicalItems_eq (items : List Json) : canonicalItems items = items.map canonical := by
  induction items with
  | nil => rfl
  | cons item items ih => rw [canonicalItems, ih, List.map_cons]

theorem canonicalMembers_eq (members : Members) :
    canonicalMembers members = members.map fun member => (member.1, canonical member.2) := by
  induction members with
  | nil => rfl
  | cons member members ih => rw [canonicalMembers, ih, List.map_cons]

theorem canonical_array (items : List Json) :
    canonical (array items) = array (items.map canonical) := by
  rw [canonical, canonicalItems_eq]

theorem canonical_object (members : Members) : canonical (object members) =
    ofMembers (members.map fun member => (member.1, canonical member.2)) := by
  rw [canonical, canonicalMembers_eq]

/-- A value whose members are in order is its own canonical form. -/
theorem canonical_eq_self {json : Json} (h : Everywhere Ordered json) : canonical json = json := by
  induction h with
  | @intro json here inside ih =>
      cases json with
      | array items =>
          have hitems : items.map canonical = items :=
            (List.map_congr_left ih).trans (List.map_id' items)
          rw [canonical_array, hitems]
      | object members =>
          have hvalues : ∀ member ∈ members, canonical member.2 = member.2 := fun member hmember =>
            ih member.2 (List.mem_map_of_mem hmember)
          have hmembers : members.map (fun member => (member.1, canonical member.2)) = members :=
            (List.map_congr_left fun member hmember => by rw [hvalues member hmember]).trans
              (List.map_id' members)
          rw [canonical_object, hmembers, ofMembers_of_ordered here]
      | _ => rfl

/-! ## Values that have been read -/

variable {cursor next : Cursor}

theorem ItemsAt.read {depth : Nat} {first : Bool} {items : List Json}
    (h : ItemsAt depth first cursor items next) {item : Json} (hitem : item ∈ items) :
    ∃ start stop, start.Follows cursor ∧ value depth start = .ok item stop := by
  induction h with
  | done hdone => cases hitem
  | more hmore hvalue hrest ih =>
      have hstart := Advances.hasItem _ hmore
      rcases List.mem_cons.mp hitem with rfl | hitem
      · exact ⟨_, _, hstart, hvalue⟩
      · obtain ⟨start, stop, hfollows, hread⟩ := ih hitem
        exact ⟨start, stop, hfollows.trans ((value_takes hvalue).1.trans hstart), hread⟩

theorem MembersAt.read {depth : Nat} {first : Bool} {members : Members}
    (h : MembersAt depth first cursor members next) {key : String} {json : Json}
    (hmember : (key, json) ∈ members) :
    ∃ start stop, start.Follows cursor ∧ value depth start = .ok json stop := by
  induction h with
  | done hdone => cases hmember
  | more hmore hkey hcolon hvalue hrest ih =>
      have hstart := (Advances.colon hcolon).trans
        ((Advances.stringBody hkey).trans (Advances.hasMember _ hmore))
      rcases List.mem_cons.mp hmember with hsame | hmember
      · cases hsame
        exact ⟨_, _, hstart, hvalue⟩
      · obtain ⟨start, stop, hfollows, hread⟩ := ih hmember
        exact ⟨start, stop, hfollows.trans ((value_takes hvalue).1.trans hstart), hread⟩

/-- A value that has been read is stored, and its brackets are no deeper than allowed. -/
theorem stored_of_value {depth : Nat} {json : Json} (hfits : cursor.Fits)
    (h : value depth cursor = .ok json next) : json.Stored ∧ depthOf json < depth := by
  -- Inside of brackets one bracket less is allowed.
  induction depth generalizing cursor json next with
  | zero => exact absurd h failNext_ne_ok
  | succ depth ih =>
      have hstart := hfits.of_follows (dropWhile_follows isSpace cursor)
      cases valueAt_of_ok hfits h with
      | null | yes | no | text => exact ⟨.intro ⟨trivial, trivial⟩ nofun, Nat.succ_pos _⟩
      | number hrest hsign hnumber =>
          cases hnumber with
          | real => exact ⟨.intro ⟨trivial, trivial⟩ nofun, Nat.succ_pos _⟩
          | integer hleast hgreatest =>
              exact ⟨.intro ⟨⟨hleast, hgreatest⟩, trivial⟩ nofun, Nat.succ_pos _⟩
      | @list _ items _ _ hrest hdepth hitems =>
          have htail := hstart.of_follows (Advances.skipChar (skipChar_eq hrest))
          have hread {item : Json} (hitem : item ∈ items) : item.Stored ∧ depthOf item < depth := by
            obtain ⟨start, stop, hfollows, hvalue⟩ := hitems.read hitem
            exact ih (htail.of_follows hfollows) hvalue
          exact ⟨.intro ⟨trivial, trivial⟩ fun item hitem => (hread hitem).1,
            depthOf_lt_of_parts hdepth fun item hitem => (hread hitem).2⟩
      | @object _ members _ _ hrest hdepth hmembers =>
          have htail := hstart.of_follows (Advances.skipChar (skipChar_eq hrest))
          have hread {part : Json} (hpart : part ∈ (ofMembers members).parts) :
              part.Stored ∧ depthOf part < depth := by
            obtain ⟨key, hmember⟩ := mem_of_part_ofMembers hpart
            obtain ⟨start, stop, hfollows, hvalue⟩ := hmembers.read hmember
            exact ih (htail.of_follows hfollows) hvalue
          exact ⟨.intro ⟨trivial, ordered_ofMembers members⟩ fun part hpart => (hread hpart).1,
            depthOf_lt_of_parts hdepth fun part hpart => (hread hpart).2⟩

/-- Whatever is read from a text is stored, and its brackets are no deeper than allowed. -/
theorem stored_of_read {text : String} {json : Json} (h : Json.read text = .ok json) :
    json.Stored ∧ depthOf json < maxDepth := by
  obtain ⟨next, hvalue, -⟩ := readAll_eq_ok.mp h
  exact stored_of_value (Cursor.fits_start text) hvalue

end ToolDiscovery.Json
