import Mathlib.Data.List.Nodup
import Mathlib.Data.List.Count
import ToolDiscovery.Proofs.Decoding
import ToolDiscovery.Proofs.StoredValues

/-!
# Records read from the members of an object

A record is read member by member, in the order in which they are written: what is read from the
text (`Record.fold_sound`, `Record.fold_complete`) is what `Record.collectMember` collects from the
values. For records whose fields do not get in each other's way, the collection succeeds if no field
is repeated and all that are given can be read (`Record.Lawful.collects_iff`).
-/

namespace ToolDiscovery.Json

/-- What is read of a field is put in its place. -/
theorem Field.fromJson_of {δ β : Type} {name : String} {decoder : Decoder β} {get : δ → Option β}
    {set : δ → β → δ} {mayLack : Bool} {json : Json} {update : δ → δ}
    (h : (Field.of name decoder get set mayLack).decoder.fromJson json = .ok update) :
    ∃ read, update = fun draft => set draft read := by
  obtain ⟨read, -, hpure⟩ := except_bind_eq_ok.mp h
  cases hpure
  exact ⟨read, rfl⟩

/-- A field is found among the members of an object: it is not repeated, what is given can be read,
and it is given unless it may be left out. -/
structure Field.FoundIn {δ : Type} (field : Field δ) (members : Members) : Prop where
  once : (members.map (·.1)).count field.name ≤ 1
  readable : ∀ json, (field.name, json) ∈ members →
    ∃ update, field.decoder.fromJson json = .ok update
  given : field.optional = false → field.name ∈ members.map (·.1)

namespace Record

variable {δ α : Type} {record : Record δ α} {depth : Nat} {cursor next stop : Cursor}
  {key : String} {json : Json}

/-- Reads the value of a member into a draft, which may not have it yet. -/
def collectMember (record : Record δ α) (draft : δ) (member : String × Json) : Except Fault δ :=
  match record.fields.find? (·.name == member.1) with
  | none => .ok draft
  | some field =>
    if field.given draft then .error ⟨.duplicateField member.1, none⟩
    else return (← field.decoder.fromJson member.2) draft

/-- The decoders of all fields are faithful. -/
def Faithful (record : Record δ α) : Prop := ∀ field ∈ record.fields, field.decoder.Faithful

theorem readMember_sound (h : record.Faithful) {draft read : δ} {start : Cursor}
    (hfits : cursor.Fits) (hcolon : colon cursor = .ok () start)
    (hvalue : value depth start = .ok json next)
    (hread : record.readMember depth draft key cursor = .ok read stop) :
    stop = next ∧ record.collectMember draft (key, json) = .ok read := by
  have hstart := hfits.of_follows (Advances.colon hcolon)
  unfold readMember at hread
  unfold collectMember
  cases hfind : record.fields.find? (·.name == key) with
  | none =>
      rw [hfind] at hread
      have hskip := (run_bind _ hcolon).symm.trans hread
      cases (run_bind _ (skipValue_of_value hstart hvalue)).symm.trans hskip
      exact ⟨rfl, rfl⟩
  | some field =>
      rw [hfind] at hread
      by_cases hgiven : field.given draft
      · simp only [hgiven, if_true] at hread
        exact absurd hread failWith_ne_ok
      · simp only [hgiven, Bool.false_eq_true, if_false] at hread ⊢
        obtain ⟨update, _, htext, hpure⟩ := bind_eq_ok.mp ((run_bind _ hcolon).symm.trans hread)
        obtain ⟨rfl, rfl⟩ := pure_eq_ok.mp hpure
        have hfield := List.mem_of_find?_eq_some hfind
        obtain ⟨rfl, hjson⟩ := (h field hfield).sound hstart hvalue htext
        exact ⟨rfl, except_bind_eq_ok.mpr ⟨update, hjson, rfl⟩⟩

theorem readMember_complete (h : record.Faithful) {draft read : δ} {start : Cursor}
    (hfits : cursor.Fits) (hcolon : colon cursor = .ok () start)
    (hvalue : value depth start = .ok json next)
    (hplain : (∃ field ∈ record.fields, field.name = key) → ∀ members, json ≠ .object members)
    (hcollect : record.collectMember draft (key, json) = .ok read) :
    record.readMember depth draft key cursor = .ok read next := by
  have hstart := hfits.of_follows (Advances.colon hcolon)
  unfold collectMember at hcollect
  unfold readMember
  cases hfind : record.fields.find? (·.name == key) with
  | none =>
      simp only [hfind] at hcollect
      cases hcollect
      exact (run_bind _ hcolon).trans (run_bind _ (skipValue_of_value hstart hvalue))
  | some field =>
      simp only [hfind] at hcollect
      by_cases hgiven : field.given draft
      · simp only [hgiven, if_true] at hcollect
        cases hcollect
      · simp only [hgiven, Bool.false_eq_true, if_false] at hcollect ⊢
        obtain ⟨update, hjson, hpure⟩ := except_bind_eq_ok.mp hcollect
        cases hpure
        have hfield := List.mem_of_find?_eq_some hfind
        have hname : field.name = key := by simpa using List.find?_some hfind
        have htext := (h field hfield).complete hstart hvalue (hplain ⟨field, hfield, hname⟩) hjson
        exact (run_bind _ hcolon).trans (run_bind _ htext)

theorem fold_sound (h : record.Faithful) {first : Bool} {fuel : Nat} {members : Members}
    {draft read : δ} (hfits : cursor.Fits) (hmembers : MembersAt depth first cursor members next)
    (hfuel : cursor.rest.length < fuel)
    (hread : foldMembers (record.readMember depth) fuel first draft cursor = .ok read stop) :
    stop = next ∧ members.foldlM record.collectMember draft = .ok read := by
  induction hmembers generalizing draft fuel with
  | done hdone =>
      obtain ⟨fuel, rfl⟩ := Nat.exists_eq_succ_of_ne_zero (Nat.ne_zero_of_lt hfuel)
      rw [foldMembers_done _ hdone] at hread
      cases hread
      exact ⟨rfl, rfl⟩
  | more hmember hkey hcolon hvalue hrest ih =>
      obtain ⟨fuel, rfl⟩ := Nat.exists_eq_succ_of_ne_zero (Nat.ne_zero_of_lt hfuel)
      have hsign := (Advances.stringBody hkey).trans (Advances.hasMember _ hmember)
      have hstart := (Advances.colon hcolon).trans hsign
      have hstop := (Advances.value depth hvalue).trans hstart
      have hlength := (value_takes hvalue).2
      rw [foldMembers_more _ hmember hkey] at hread
      obtain ⟨update, _, hstep, hmore⟩ := bind_eq_ok.mp hread
      obtain ⟨rfl, hcollect⟩ := readMember_sound h (hfits.of_follows hsign) hcolon hvalue hstep
      have hstartLength := hstart.length
      -- The member took a character, so the bound that is left is above what is left of the text.
      obtain ⟨rfl, hfold⟩ := ih (hfits.of_follows hstop) (by omega) hmore
      rw [List.foldlM_cons]
      exact ⟨rfl, except_bind_eq_ok.mpr ⟨update, hcollect, hfold⟩⟩

theorem fold_complete (h : record.Faithful) {first : Bool} {fuel : Nat} {members : Members}
    {draft read : δ} (hfits : cursor.Fits) (hmembers : MembersAt depth first cursor members next)
    (hfuel : cursor.rest.length < fuel)
    (hplain : ∀ field ∈ record.fields, ∀ parts, (field.name, Json.object parts) ∉ members)
    (hcollect : members.foldlM record.collectMember draft = .ok read) :
    foldMembers (record.readMember depth) fuel first draft cursor = .ok read next := by
  induction hmembers generalizing draft fuel with
  | done hdone =>
      obtain ⟨fuel, rfl⟩ := Nat.exists_eq_succ_of_ne_zero (Nat.ne_zero_of_lt hfuel)
      cases hcollect
      exact foldMembers_done _ hdone
  | more hmember hkey hcolon hvalue hrest ih =>
      obtain ⟨fuel, rfl⟩ := Nat.exists_eq_succ_of_ne_zero (Nat.ne_zero_of_lt hfuel)
      have hsign := (Advances.stringBody hkey).trans (Advances.hasMember _ hmember)
      have hstart := (Advances.colon hcolon).trans hsign
      have hstop := (Advances.value depth hvalue).trans hstart
      have hlength := (value_takes hvalue).2
      rw [List.foldlM_cons] at hcollect
      obtain ⟨update, hcollectFirst, hcollectRest⟩ := except_bind_eq_ok.mp hcollect
      have hstep := readMember_complete h (hfits.of_follows hsign) hcolon hvalue (by
        rintro ⟨field, hfield, rfl⟩ parts rfl
        exact hplain field hfield parts List.mem_cons_self) hcollectFirst
      have hstartLength := hstart.length
      rw [foldMembers_more _ hmember hkey, run_bind _ hstep]
      exact ih (hfits.of_follows hstop) (by omega)
        (fun field hfield parts hmem => hplain field hfield parts (List.mem_cons_of_mem _ hmem))
        hcollectRest

/-! ## Records read from values -/

theorem make_eq_ok {draft : δ} {result : α} :
    record.make draft = .ok result ↔ record.finish draft = .ok result := by
  unfold make
  cases record.finish draft with
  | error name => exact iff_of_false nofun nofun
  | ok made =>
      show Except.ok made = _ ↔ _
      rw [Except.ok.injEq, Except.ok.injEq]

/-- A field is read from a part of a value: from a member of an object with its name, or from the
item of a list at its place. -/
inductive Takes (record : Record δ α) : Json → Field δ → Json → Prop where
  | member {members : Members} {field : Field δ} {part : Json} (hfield : field ∈ record.fields)
      (hpart : (field.name, part) ∈ members) : record.Takes (.object members) field part
  | item {items : List Json} {place : Nat} {field : Field δ} {part : Json}
      (hfield : record.fields[place]? = some field) (hpart : items[place]? = some part) :
      record.Takes (.array items) field part

theorem Takes.mem {field : Field δ} {part : Json} (h : record.Takes json field part) :
    field ∈ record.fields ∧ part ∈ json.parts := by
  cases h with
  | member hfield hpart => exact ⟨hfield, List.mem_map_of_mem hpart⟩
  | item hfield hpart => exact ⟨List.mem_of_getElem? hfield, List.mem_of_getElem? hpart⟩

section Invariant

variable {P : δ → Prop}

theorem fromItems_invariant {index : Nat} {fields : List (Field δ)} {items : List Json}
    {draft read : δ}
    (hstep : ∀ (place : Nat) field part, fields[place]? = some field → items[place]? = some part →
      ∀ update, field.decoder.fromJson part = .ok update → ∀ draft, P draft → P (update draft))
    (hdraft : P draft) (h : record.fromItems index fields items draft = .ok read) : P read := by
  induction fields generalizing index items draft with
  | nil =>
      cases h
      exact hdraft
  | cons field fields ih =>
      cases items with
      | nil =>
          unfold fromItems at h
          split at h
          · cases h
          · cases h
            exact hdraft
      | cons item items =>
          obtain ⟨update, hupdate, hrest⟩ := except_bind_eq_ok.mp h
          refine ih (fun place other part hother hpart => ?_) ?_ hrest
          · exact hstep (place + 1) other part hother hpart
          · exact hstep 0 field item rfl rfl update hupdate draft hdraft

theorem foldlM_fromMember_invariant {members : Members} {draft read : δ}
    (hstep : ∀ field ∈ record.fields, ∀ part, (field.name, part) ∈ members →
      ∀ update, field.decoder.fromJson part = .ok update → ∀ draft, P draft → P (update draft))
    (hdraft : P draft) (h : members.foldlM record.fromMember draft = .ok read) : P read := by
  induction members generalizing draft with
  | nil =>
      cases h
      exact hdraft
  | cons member members ih =>
      rw [List.foldlM_cons] at h
      obtain ⟨next, hmember, hrest⟩ := except_bind_eq_ok.mp h
      refine ih (fun field hfield part hpart => ?_) ?_ hrest
      · exact hstep field hfield part (List.mem_cons_of_mem _ hpart)
      · unfold fromMember at hmember
        split at hmember
        · cases hmember
          exact hdraft
        · rename_i field hfind
          obtain ⟨update, hupdate, hpure⟩ := except_bind_eq_ok.mp hmember
          cases hpure
          have hname : field.name = member.1 := by simpa using List.find?_some hfind
          have hpart : (field.name, member.2) ∈ member :: members :=
            hname ▸ List.mem_cons_self
          exact hstep field (List.mem_of_find?_eq_some hfind) member.2 hpart update hupdate draft
            hdraft

/-- A record is made from a draft that has every property which the blank draft has and which no
field takes away when it is read. -/
theorem draft_of_takes {result : α} (hblank : P record.blank)
    (hstep : ∀ field part, record.Takes json field part → ∀ update,
      field.decoder.fromJson part = .ok update → ∀ draft, P draft → P (update draft))
    (h : record.decoder.fromJson json = .ok result) :
    ∃ draft, P draft ∧ record.finish draft = .ok result := by
  cases json with
  | array items =>
      obtain ⟨draft, hread, hmade⟩ := except_bind_eq_ok.mp h
      split at hmade
      · cases hmade
      · exact ⟨draft, fromItems_invariant
          (fun _ field part hfield hpart => hstep field part (.item hfield hpart)) hblank hread,
          make_eq_ok.mp (except_mapError_eq_ok.mp hmade)⟩
  | object members =>
      obtain ⟨draft, hread, hmade⟩ := except_bind_eq_ok.mp h
      exact ⟨draft, foldlM_fromMember_invariant
        (fun field hfield part hpart => hstep field part (.member hfield hpart)) hblank hread,
        make_eq_ok.mp (except_mapError_eq_ok.mp hmade)⟩
  | null | boolean | integer | real | string => cases h

/-- The same, where it does not matter which part a field is read from. -/
theorem draft_of_fromJson {result : α} (hblank : P record.blank)
    (hstep : ∀ field ∈ record.fields, ∀ part ∈ json.parts, ∀ update,
      field.decoder.fromJson part = .ok update → ∀ draft, P draft → P (update draft))
    (h : record.decoder.fromJson json = .ok result) :
    ∃ draft, P draft ∧ record.finish draft = .ok result :=
  draft_of_takes hblank
    (fun field part htakes => hstep field htakes.mem.1 part htakes.mem.2) h

end Invariant

/-! ## What the members have to be like -/

/-- A record whose fields do not get in each other's way: reading one into a draft gives that one
and no other, and a draft makes a record if it has all fields that may not be left out. -/
structure Lawful (record : Record δ α) : Prop where
  faithful : record.Faithful
  names : (record.fields.map (·.name)).Nodup
  blank : ∀ field ∈ record.fields, field.given record.blank = false
  given : ∀ field ∈ record.fields, ∀ {json update}, field.decoder.fromJson json = .ok update →
    ∀ draft, ∀ other ∈ record.fields,
      other.given (update draft) = (other.name == field.name || other.given draft)
  finish : ∀ draft, (∃ result, record.finish draft = .ok result) ↔
    ∀ field ∈ record.fields, field.optional = false → field.given draft

namespace Lawful

variable {draft read : δ} {field : Field δ} {members : Members}

theorem eq_of_name (h : record.Lawful) {other : Field δ} (hfield : field ∈ record.fields)
    (hother : other ∈ record.fields) (hname : field.name = other.name) : field = other :=
  List.inj_on_of_nodup_map h.names hfield hother hname

theorem collectMember_iff (h : record.Lawful) :
    (∃ read, record.collectMember draft (key, json) = .ok read) ↔
      ∀ field ∈ record.fields, field.name = key →
        field.given draft = false ∧ ∃ update, field.decoder.fromJson json = .ok update := by
  unfold collectMember
  cases hfind : record.fields.find? (·.name == key) with
  | none =>
      have hunknown : ∀ field ∈ record.fields, field.name ≠ key := by
        simpa using List.find?_eq_none.mp hfind
      exact iff_of_true ⟨draft, rfl⟩ fun field hfield hname => absurd hname (hunknown field hfield)
  | some found =>
      have hfound := List.mem_of_find?_eq_some hfind
      have hname : found.name = key := by simpa using List.find?_some hfind
      constructor
      · rintro ⟨read, hread⟩ field hfield hkey
        obtain rfl := h.eq_of_name hfield hfound (hkey.trans hname.symm)
        cases hgiven : field.given draft with
        | true => simp [hgiven] at hread
        | false =>
            simp only [hgiven, Bool.false_eq_true, if_false] at hread
            obtain ⟨update, hupdate, -⟩ := except_bind_eq_ok.mp hread
            exact ⟨rfl, update, hupdate⟩
      · intro hall
        obtain ⟨hgiven, update, hupdate⟩ := hall found hfound hname
        simp only [hgiven, Bool.false_eq_true, if_false]
        exact ⟨update draft, except_bind_eq_ok.mpr ⟨update, hupdate, rfl⟩⟩

theorem given_of_collectMember (h : record.Lawful) (hfield : field ∈ record.fields)
    (hread : record.collectMember draft (key, json) = .ok read) :
    field.given read = (field.name == key || field.given draft) := by
  unfold collectMember at hread
  cases hfind : record.fields.find? (·.name == key) with
  | none =>
      simp only [hfind] at hread
      cases hread
      have hunknown : field.name ≠ key := by simpa using List.find?_eq_none.mp hfind field hfield
      simp [hunknown]
  | some found =>
      have hfound := List.mem_of_find?_eq_some hfind
      have hname : found.name = key := by simpa using List.find?_some hfind
      cases hgiven : found.given draft with
      | true => simp [hfind, hgiven] at hread
      | false =>
          simp only [hfind, hgiven, Bool.false_eq_true, if_false] at hread
          obtain ⟨update, hupdate, hpure⟩ := except_bind_eq_ok.mp hread
          cases hpure
          rw [h.given found hfound hupdate draft field hfield, hname]

/-- A field that is collected is among the members. -/
theorem given_of_collect (h : record.Lawful) (hfield : field ∈ record.fields)
    (hread : members.foldlM record.collectMember draft = .ok read) :
    field.given read ↔ field.name ∈ members.map (·.1) ∨ field.given draft := by
  induction members generalizing draft with
  | nil =>
      cases hread
      simp
  | cons member members ih =>
      obtain ⟨key, json⟩ := member
      rw [List.foldlM_cons] at hread
      obtain ⟨update, hstep, hrest⟩ := except_bind_eq_ok.mp hread
      rw [ih hrest, h.given_of_collectMember hfield hstep]
      simp only [Bool.or_eq_true, beq_iff_eq, List.map_cons, List.mem_cons]
      tauto

/-- Members are collected if no field is repeated and all that are given can be read. A field that
the draft has counts as given. -/
theorem collect_iff (h : record.Lawful) :
    (∃ read, members.foldlM record.collectMember draft = .ok read) ↔
      ∀ field ∈ record.fields,
        (members.map (·.1)).count field.name + (field.given draft).toNat ≤ 1 ∧
          ∀ json, (field.name, json) ∈ members →
            ∃ update, field.decoder.fromJson json = .ok update := by
  induction members generalizing draft with
  | nil =>
      refine iff_of_true ⟨draft, rfl⟩ fun field _ => ⟨?_, nofun⟩
      simpa using Bool.toNat_le (field.given draft)
  | cons member members ih =>
      obtain ⟨key, json⟩ := member
      have hcount (field : Field δ) : (((key, json) :: members).map (·.1)).count field.name =
          (members.map (·.1)).count field.name + if field.name = key then 1 else 0 := by
        simp only [List.map_cons, List.count_cons, beq_iff_eq, eq_comm (a := key)]
      constructor
      · rintro ⟨read, hread⟩ field hfield
        rw [List.foldlM_cons] at hread
        obtain ⟨update, hstep, hrest⟩ := except_bind_eq_ok.mp hread
        obtain ⟨honce, hreadable⟩ := ih.mp ⟨read, hrest⟩ field hfield
        have hfirst := h.collectMember_iff.mp ⟨update, hstep⟩ field hfield
        rw [h.given_of_collectMember hfield hstep] at honce
        constructor
        · rw [hcount]
          by_cases hname : field.name = key
          · have hblank := (hfirst hname).1
            simp only [hname, beq_self_eq_true, Bool.true_or, Bool.toNat_true] at honce
            simp only [hname, hblank, if_true, Bool.toNat_false]
            omega
          · rw [beq_eq_false_iff_ne.mpr hname, Bool.false_or] at honce
            rwa [if_neg hname]
        · intro value hmem
          rcases List.mem_cons.mp hmem with hsame | hmem
          · cases hsame
            exact (hfirst rfl).2
          · exact hreadable value hmem
      · intro hall
        have hfirst : ∀ field ∈ record.fields, field.name = key →
            field.given draft = false ∧ ∃ update, field.decoder.fromJson json = .ok update := by
          rintro field hfield rfl
          obtain ⟨honce, hreadable⟩ := hall field hfield
          rw [hcount, if_pos rfl] at honce
          have hblank : (field.given draft).toNat = 0 := by omega
          exact ⟨by simpa using hblank, hreadable json List.mem_cons_self⟩
        obtain ⟨update, hstep⟩ := h.collectMember_iff.mpr hfirst
        have hrest : ∃ read, members.foldlM record.collectMember update = .ok read := by
          refine ih.mpr fun field hfield => ?_
          obtain ⟨honce, hreadable⟩ := hall field hfield
          refine ⟨?_, fun value hmem => hreadable value (List.mem_cons_of_mem _ hmem)⟩
          rw [h.given_of_collectMember hfield hstep]
          rw [hcount] at honce
          by_cases hname : field.name = key
          · have hblank := (hfirst field hfield hname).1
            simp only [hname, beq_self_eq_true, Bool.true_or, Bool.toNat_true]
            simp only [hname, hblank, if_true, Bool.toNat_false] at honce
            omega
          · rw [beq_eq_false_iff_ne.mpr hname, Bool.false_or]
            rwa [if_neg hname] at honce
        obtain ⟨read, hread⟩ := hrest
        rw [List.foldlM_cons]
        exact ⟨read, except_bind_eq_ok.mpr ⟨update, hstep, hread⟩⟩

end Lawful

theorem readEnd_eq_ok {draft : δ} {result : α} :
    record.readEnd draft cursor = .ok result next ↔
      record.finish draft = .ok result ∧ next = cursor := by
  rw [← make_eq_ok]
  unfold readEnd
  cases record.make draft with
  | error cause => exact iff_of_false failWith_ne_ok nofun
  | ok made =>
      show (pure made : Reader α) cursor = _ ↔ _
      rw [pure_eq_ok, Except.ok.injEq, eq_comm (a := cursor)]

/-- A record whose fields are collected from the members of an object is read from the text where
these are written. -/
theorem fromText_of_collect (h : record.Faithful) {rest : List Char} {members : Members}
    {last : Cursor} {draft : δ} {result : α} (hfits : cursor.Fits) (hdepth : 0 < depth)
    (hrest : (cursor.dropWhile isSpace).rest = '\x7b' :: rest)
    (hmembers : MembersAt depth true ((cursor.dropWhile isSpace).tail '\x7b' rest) members last)
    (hclose : closeObject last = .ok () next)
    (hplain : ∀ field ∈ record.fields, ∀ parts, (field.name, Json.object parts) ∉ members)
    (hcollect : members.foldlM record.collectMember record.blank = .ok draft)
    (hmade : record.finish draft = .ok result) :
    record.decoder.fromText (depth + 1) cursor = .ok result next := by
  have hstart := hfits.of_follows (dropWhile_follows isSpace cursor)
  have htail := hstart.of_follows (Advances.skipChar (skipChar_eq hrest))
  have hfold := fold_complete h htail hmembers (Nat.lt_succ_of_le htail) hplain hcollect
  have hend : record.readEnd draft last = .ok result last := readEnd_eq_ok.mpr ⟨hmade, rfl⟩
  refine (Decoder.starting_eq hrest).trans ((nested_eq_ok hrest).mpr ⟨hdepth, ?_⟩)
  exact thenClose_eq_ok.mpr ⟨last, bind_eq_ok.mpr ⟨_, _, rfl, bind_eq_ok.mpr ⟨_, _, hfold, hend⟩⟩,
    hclose⟩

/-- What is read from the text of an object is collected from the members that are written there. -/
theorem collect_of_fromText (h : record.Faithful) {rest : List Char} {members : Members}
    {last : Cursor} {result : α} (hfits : cursor.Fits)
    (hrest : (cursor.dropWhile isSpace).rest = '\x7b' :: rest)
    (hmembers : MembersAt depth true ((cursor.dropWhile isSpace).tail '\x7b' rest) members last)
    (hclose : closeObject last = .ok () next)
    (htext : record.decoder.fromText (depth + 1) cursor = .ok result stop) :
    stop = next ∧ ∃ draft, members.foldlM record.collectMember record.blank = .ok draft ∧
      record.finish draft = .ok result := by
  have hstart := hfits.of_follows (dropWhile_follows isSpace cursor)
  have htail := hstart.of_follows (Advances.skipChar (skipChar_eq hrest))
  have hbody := ((nested_eq_ok hrest).mp ((Decoder.starting_eq hrest).symm.trans htext)).2
  obtain ⟨stopped, hread, hend⟩ := thenClose_eq_ok.mp hbody
  obtain ⟨fuel, _, hbound, hread⟩ := bind_eq_ok.mp hread
  cases hbound
  obtain ⟨draft, middle, hfold, hfinish⟩ := bind_eq_ok.mp hread
  obtain ⟨hmade, rfl⟩ := readEnd_eq_ok.mp hfinish
  obtain ⟨rfl, hcollect⟩ := fold_sound h htail hmembers (Nat.lt_succ_of_le htail) hfold
  cases hend.symm.trans hclose
  exact ⟨rfl, draft, hcollect, hmade⟩

/-- A record that is collected from the members of the object in a text is decoded. -/
theorem decodeText_of_collect (h : record.Faithful) {text : String} {members : Members} {draft : δ}
    {result : α} (hwritten : writtenMembers text = .ok members)
    (hplain : ∀ field ∈ record.fields, ∀ parts, (field.name, Json.object parts) ∉ members)
    (hcollect : members.foldlM record.collectMember record.blank = .ok draft)
    (hmade : record.finish draft = .ok result) :
    record.decoder.decodeText text = .ok result := by
  obtain ⟨rest, last, next, hrest, hmembers, hclose, hend⟩ := membersAt_of_writtenMembers hwritten
  have htext := fromText_of_collect h (Cursor.fits_start text) (by decide) hrest hmembers hclose
    hplain hcollect hmade
  exact readAll_eq_ok.mpr ⟨next, htext, hend⟩

/-- What is decoded from a text is collected from the members of the object in it. -/
theorem collect_of_decodeText (h : record.Faithful) {text : String} {members : Members}
    {result : α} (hwritten : writtenMembers text = .ok members)
    (hdecode : record.decoder.decodeText text = .ok result) :
    ∃ draft, members.foldlM record.collectMember record.blank = .ok draft ∧
      record.finish draft = .ok result := by
  obtain ⟨rest, last, next, hrest, hmembers, hclose, -⟩ := membersAt_of_writtenMembers hwritten
  obtain ⟨stop, htext, -⟩ := readAll_eq_ok.mp hdecode
  exact (collect_of_fromText h (Cursor.fits_start text) hrest hmembers hclose htext).2

namespace Lawful

/-- A record is made from the members of an object if and only if all fields are found in them. -/
theorem collects_iff (h : record.Lawful) {members : Members} :
    (∃ draft result, members.foldlM record.collectMember record.blank = .ok draft ∧
        record.finish draft = .ok result) ↔
      ∀ field ∈ record.fields, field.FoundIn members := by
  constructor
  · rintro ⟨draft, result, hcollect, hfinish⟩ field hfield
    obtain ⟨honce, hreadable⟩ := h.collect_iff.mp ⟨draft, hcollect⟩ field hfield
    refine ⟨by omega, hreadable, fun hneeded => ?_⟩
    have hgiven := (h.finish draft).mp ⟨result, hfinish⟩ field hfield hneeded
    have hmem := (h.given_of_collect hfield hcollect).mp hgiven
    simpa [h.blank field hfield] using hmem
  · intro hall
    obtain ⟨draft, hcollect⟩ := h.collect_iff.mpr fun field hfield => by
      have hfound := hall field hfield
      rw [h.blank field hfield]
      exact ⟨hfound.once, hfound.readable⟩
    obtain ⟨result, hfinish⟩ := (h.finish draft).mpr fun field hfield hneeded =>
      (h.given_of_collect hfield hcollect).mpr (.inl ((hall field hfield).given hneeded))
    exact ⟨draft, result, hcollect, hfinish⟩

theorem fromText_sound (h : record.Lawful) {rest : List Char} {members : Members}
    {last : Cursor} {result : α} (hfits : cursor.Fits)
    (hrest : (cursor.dropWhile isSpace).rest = '\x7b' :: rest)
    (hmembers : MembersAt depth true ((cursor.dropWhile isSpace).tail '\x7b' rest) members last)
    (hclose : closeObject last = .ok () next)
    (htext : record.decoder.fromText (depth + 1) cursor = .ok result stop) :
    stop = next ∧ ∀ field ∈ record.fields, field.FoundIn members := by
  obtain ⟨rfl, draft, hcollect, hmade⟩ :=
    collect_of_fromText h.faithful hfits hrest hmembers hclose htext
  exact ⟨rfl, h.collects_iff.mp ⟨draft, result, hcollect, hmade⟩⟩

theorem fromText_complete (h : record.Lawful) {rest : List Char} {members : Members}
    {last : Cursor} (hfits : cursor.Fits) (hdepth : 0 < depth)
    (hrest : (cursor.dropWhile isSpace).rest = '\x7b' :: rest)
    (hmembers : MembersAt depth true ((cursor.dropWhile isSpace).tail '\x7b' rest) members last)
    (hclose : closeObject last = .ok () next)
    (hplain : ∀ field ∈ record.fields, ∀ parts, (field.name, Json.object parts) ∉ members)
    (hall : ∀ field ∈ record.fields, field.FoundIn members) :
    ∃ result, record.decoder.fromText (depth + 1) cursor = .ok result next := by
  obtain ⟨draft, result, hcollect, hmade⟩ := h.collects_iff.mpr hall
  exact ⟨result, fromText_of_collect h.faithful hfits hdepth hrest hmembers hclose hplain hcollect
    hmade⟩

end Lawful

end Record

end ToolDiscovery.Json
