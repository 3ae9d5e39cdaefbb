import ToolDiscovery.Proofs.WrittenNumbers

/-!
# How JSON values are written

`ValueAt` says how a value is written: which character it starts with, what stands between its
brackets, and where it ends. `valueAt_of_ok` shows that whatever `value` reads is written so, and
`value_of_valueAt` that whatever is written so is read. The members of an object are listed in the
order in which they are written, with all repetitions.
-/

namespace ToolDiscovery.Json

variable {cursor next : Cursor}

/-- The items of a list are written from a place on, up to the next place. -/
inductive ItemsAt (depth : Nat) : Bool → Cursor → List Json → Cursor → Prop where
  | done {first : Bool} {cursor next : Cursor} (h : hasItem first cursor = .ok false next) :
      ItemsAt depth first cursor [] next
  | more {first : Bool} {cursor start stop next : Cursor} {json : Json} {items : List Json}
      (hitem : hasItem first cursor = .ok true start) (hvalue : value depth start = .ok json stop)
      (hrest : ItemsAt depth false stop items next) :
      ItemsAt depth first cursor (json :: items) next

/-- The members of an object are written from a place on, up to the next place. -/
inductive MembersAt (depth : Nat) : Bool → Cursor → Members → Cursor → Prop where
  | done {first : Bool} {cursor next : Cursor} (h : hasMember first cursor = .ok false next) :
      MembersAt depth first cursor [] next
  | more {first : Bool} {cursor name sign start stop next : Cursor} {key : String} {json : Json}
      {members : Members} (hmember : hasMember first cursor = .ok true name)
      (hkey : stringBody name = .ok key sign) (hcolon : colon sign = .ok () start)
      (hvalue : value depth start = .ok json stop)
      (hrest : MembersAt depth false stop members next) :
      MembersAt depth first cursor ((key, json) :: members) next

/-- A value is written from a place on that is no white space, up to the next place. The depth is
what is left inside of its brackets. -/
inductive ValueAt (depth : Nat) (start : Cursor) : Json → Cursor → Prop where
  | null {rest : List Char} {next : Cursor} (hrest : start.rest = 'n' :: rest)
      (hword : expectIdent "ull".toList (start.tail 'n' rest) = .ok () next) :
      ValueAt depth start .null next
  | yes {rest : List Char} {next : Cursor} (hrest : start.rest = 't' :: rest)
      (hword : expectIdent "rue".toList (start.tail 't' rest) = .ok () next) :
      ValueAt depth start (.boolean true) next
  | no {rest : List Char} {next : Cursor} (hrest : start.rest = 'f' :: rest)
      (hword : expectIdent "alse".toList (start.tail 'f' rest) = .ok () next) :
      ValueAt depth start (.boolean false) next
  | text {rest : List Char} {text : String} {next : Cursor} (hrest : start.rest = '"' :: rest)
      (hbody : stringBody (start.tail '"' rest) = .ok text next) :
      ValueAt depth start (.string text) next
  | number {c : Char} {rest : List Char} {json : Json} {next : Cursor}
      (hrest : start.rest = c :: rest) (hsign : c = '-' ∨ isDigit c) (hnumber : IsNumber json)
      (hscalar : scalar c start = .ok json next) : ValueAt depth start json next
  | list {rest : List Char} {items : List Json} {last next : Cursor}
      (hrest : start.rest = '[' :: rest) (hdepth : 0 < depth)
      (hitems : ItemsAt depth true (start.tail '[' rest) items last)
      (hclose : closeList last = .ok () next) : ValueAt depth start (.array items) next
  | object {rest : List Char} {members : Members} {last next : Cursor}
      (hrest : start.rest = '\x7b' :: rest) (hdepth : 0 < depth)
      (hmembers : MembersAt depth true (start.tail '\x7b' rest) members last)
      (hclose : closeObject last = .ok () next) : ValueAt depth start (.ofMembers members) next

/-! ## Values without brackets -/

theorem scalar_of_digit {c : Char} (h : isDigit c) : scalar c = number false := by
  unfold scalar
  split
  · exact absurd h (by decide)
  · exact absurd h (by decide)
  · exact absurd h (by decide)
  · exact absurd h (by decide)
  · exact absurd h (by decide)
  · exact if_pos h

theorem valueAt_of_scalar {depth : Nat} {c : Char} {rest : List Char} {json : Json}
    (hfits : cursor.Fits) (hrest : cursor.rest = c :: rest)
    (h : scalar c cursor = .ok json next) : ValueAt depth cursor json next := by
  have hscalar := h
  have hskip := skipChar_eq hrest
  unfold scalar at h
  split at h
  · rw [run_bind _ hskip] at h
    obtain ⟨_, _, hword, hpure⟩ := bind_eq_ok.mp h
    cases hpure
    exact .null hrest hword
  · rw [run_bind _ hskip] at h
    obtain ⟨_, _, hword, hpure⟩ := bind_eq_ok.mp h
    cases hpure
    exact .yes hrest hword
  · rw [run_bind _ hskip] at h
    obtain ⟨_, _, hword, hpure⟩ := bind_eq_ok.mp h
    cases hpure
    exact .no hrest hword
  · rw [run_bind _ hskip] at h
    obtain ⟨text, _, hbody, hpure⟩ := bind_eq_ok.mp h
    cases hpure
    exact .text hrest hbody
  · rw [run_bind _ hskip] at h
    have htail : (cursor.tail '-' rest).Fits := hfits.of_follows (Advances.skipChar hskip)
    exact .number hrest (.inl rfl) (number_takes htail h).2 hscalar
  · by_cases hdigit : isDigit c
    · rw [if_pos hdigit] at h
      exact .number hrest (.inr hdigit) (number_takes hfits h).2 hscalar
    · rw [if_neg hdigit] at h
      exact absurd h failNext_ne_ok

/-! ## Lists and objects -/

/-- Reading the items of a list finds how they are written, since each takes a character and the
bound is greater than the number of those. -/
theorem itemsAt_of_foldItems {depth fuel : Nat} {first : Bool} {read result : List Json}
    (h : foldItems (fun items => return (← value depth) :: items) fuel first read cursor =
      .ok result next) (hfuel : cursor.rest.length < fuel) :
    ∃ items, ItemsAt depth first cursor items next ∧ result = items.reverse ++ read := by
  induction fuel generalizing first read cursor with
  | zero => exact absurd hfuel (Nat.not_lt_zero _)
  | succ fuel ih =>
      obtain ⟨more, start, hitem, hmore⟩ := bind_eq_ok.mp h
      cases more with
      | false =>
          cases hmore
          exact ⟨[], .done hitem, rfl⟩
      | true =>
          obtain ⟨state, stop, hstep, hfold⟩ := bind_eq_ok.mp hmore
          obtain ⟨json, stop, hvalue, hpure⟩ := bind_eq_ok.mp hstep
          cases hpure
          have hlt := (value_takes hvalue).2
          have hle := (Advances.hasItem first hitem).length
          obtain ⟨items, hitems, hresult⟩ := ih hfold (by omega)
          refine ⟨json :: items, .more hitem hvalue hitems, ?_⟩
          rw [hresult, List.reverse_cons, List.append_assoc]
          rfl

theorem membersAt_of_foldMembers {σ : Type} {add : σ → String → Json → σ} {depth fuel : Nat}
    {first : Bool} {read result : σ}
    (h : foldMembers (fun read key => do
      colon
      return add read key (← value depth)) fuel first read cursor = .ok result next)
    (hfuel : cursor.rest.length < fuel) :
    ∃ members, MembersAt depth first cursor members next ∧
      result = members.foldl (fun read member => add read member.1 member.2) read := by
  induction fuel generalizing first read cursor with
  | zero => exact absurd hfuel (Nat.not_lt_zero _)
  | succ fuel ih =>
      obtain ⟨more, name, hmember, hmore⟩ := bind_eq_ok.mp h
      cases more with
      | false =>
          cases hmore
          exact ⟨[], .done hmember, rfl⟩
      | true =>
          obtain ⟨key, sign, hkey, hread⟩ := bind_eq_ok.mp hmore
          obtain ⟨state, stop, hstep, hfold⟩ := bind_eq_ok.mp hread
          obtain ⟨done, start, hcolon, hrest⟩ := bind_eq_ok.mp hstep
          obtain ⟨json, stop, hvalue, hpure⟩ := bind_eq_ok.mp hrest
          cases hpure
          have hlt := (value_takes hvalue).2
          have hname := (Advances.hasMember first hmember).length
          have hsign := (Advances.stringBody hkey).length
          have hstart := (Advances.colon hcolon).length
          obtain ⟨members, hmembers, hresult⟩ := ih hfold (by omega)
          exact ⟨(key, json) :: members, .more hmember hkey hcolon hvalue hmembers, hresult⟩

/-- Reading a value finds how it is written after the white space before it. -/
theorem valueAt_of_ok {depth : Nat} {json : Json} (hfits : cursor.Fits)
    (h : value (depth + 1) cursor = .ok json next) :
    ValueAt depth (cursor.dropWhile isSpace) json next := by
  have hstart : (cursor.dropWhile isSpace).Fits := hfits.of_follows (dropWhile_follows _ _)
  -- The bound of a repetition after the first character is greater than what follows.
  have hbound {c : Char} {rest : List Char} (hrest : (cursor.dropWhile isSpace).rest = c :: rest) :
      rest.length < (cursor.dropWhile isSpace).size + 1 := by
    unfold Cursor.Fits at hstart
    rw [hrest, List.length_cons] at hstart
    omega
  unfold value at h
  obtain ⟨c?, start, hpeek, hcase⟩ := bind_eq_ok.mp h
  obtain ⟨rfl, hhead⟩ := of_peekToken? hpeek
  split at hcase
  · exact absurd hcase failHere_ne_ok
  · obtain ⟨rest, hrest⟩ := List.head?_eq_some_iff.mp hhead
    obtain ⟨hdepth, hbody⟩ := (nested_eq_ok hrest).mp hcase
    obtain ⟨items, last, hclosed, hpure⟩ := bind_eq_ok.mp hbody
    cases hpure
    obtain ⟨last, hread, hclose⟩ := thenClose_eq_ok.mp hclosed
    obtain ⟨fuel, start, hfuel, hread⟩ := bind_eq_ok.mp hread
    cases hfuel
    obtain ⟨read, middle, hfold, hpure⟩ := bind_eq_ok.mp hread
    cases hpure
    obtain ⟨items, hitems, rfl⟩ := itemsAt_of_foldItems hfold (hbound hrest)
    rw [List.append_nil, List.reverse_reverse]
    exact .list hrest hdepth hitems hclose
  · obtain ⟨rest, hrest⟩ := List.head?_eq_some_iff.mp hhead
    obtain ⟨hdepth, hbody⟩ := (nested_eq_ok hrest).mp hcase
    obtain ⟨read, last, hclosed, hpure⟩ := bind_eq_ok.mp hbody
    cases hpure
    obtain ⟨last, hread, hclose⟩ := thenClose_eq_ok.mp hclosed
    obtain ⟨fuel, start, hfuel, hfold⟩ := bind_eq_ok.mp hread
    cases hfuel
    obtain ⟨members, hmembers, rfl⟩ := membersAt_of_foldMembers hfold (hbound hrest)
    exact .object hrest hdepth hmembers hclose
  · obtain ⟨rest, hrest⟩ := List.head?_eq_some_iff.mp hhead
    exact valueAt_of_scalar hstart hrest hcase

/-! ## What is written is read -/

section Fold

variable {σ : Type} {name sign : Cursor} {fuel : Nat} {first : Bool} {state : σ}

theorem foldMembers_done (step : σ → String → Reader σ)
    (h : hasMember first cursor = .ok false next) :
    foldMembers step (fuel + 1) first state cursor = .ok state next :=
  run_bind _ h

theorem foldMembers_more (step : σ → String → Reader σ) {key : String}
    (hmember : hasMember first cursor = .ok true name) (hkey : stringBody name = .ok key sign) :
    foldMembers step (fuel + 1) first state cursor =
      (step state key >>= fun state => foldMembers step fuel false state) sign :=
  (run_bind _ hmember).trans (run_bind _ hkey)

end Fold

theorem foldItems_of_itemsAt {depth fuel : Nat} {first : Bool} {items : List Json}
    (h : ItemsAt depth first cursor items next) (hfuel : cursor.rest.length < fuel)
    (read : List Json) :
    foldItems (fun items => return (← value depth) :: items) fuel first read cursor =
      .ok (items.reverse ++ read) next := by
  induction h generalizing fuel read with
  | done hdone =>
      obtain ⟨fuel, rfl⟩ := Nat.exists_eq_succ_of_ne_zero (Nat.ne_zero_of_lt hfuel)
      exact run_bind _ hdone
  | more hitem hvalue hrest ih =>
      obtain ⟨fuel, rfl⟩ := Nat.exists_eq_succ_of_ne_zero (Nat.ne_zero_of_lt hfuel)
      have hstart := (Advances.hasItem _ hitem).length
      have hlength := (value_takes hvalue).2
      rw [List.reverse_cons, List.append_assoc]
      exact (run_bind _ hitem).trans (bind_eq_ok.mpr
        ⟨_, _, bind_eq_ok.mpr ⟨_, _, hvalue, rfl⟩, ih (by omega) _⟩)

theorem foldMembers_of_membersAt {σ : Type} {depth fuel : Nat} {first : Bool} {members : Members}
    (h : MembersAt depth first cursor members next) (hfuel : cursor.rest.length < fuel)
    (add : σ → String → Json → σ) (read : σ) :
    foldMembers (fun read key => do
      colon
      return add read key (← value depth)) fuel first read cursor =
        .ok (members.foldl (fun read member => add read member.1 member.2) read) next := by
  induction h generalizing fuel read with
  | done hdone =>
      obtain ⟨fuel, rfl⟩ := Nat.exists_eq_succ_of_ne_zero (Nat.ne_zero_of_lt hfuel)
      exact foldMembers_done _ hdone
  | more hmember hkey hcolon hvalue hrest ih =>
      obtain ⟨fuel, rfl⟩ := Nat.exists_eq_succ_of_ne_zero (Nat.ne_zero_of_lt hfuel)
      have hstart := ((Advances.colon hcolon).trans
        ((Advances.stringBody hkey).trans (Advances.hasMember _ hmember))).length
      have hlength := (value_takes hvalue).2
      rw [foldMembers_more _ hmember hkey, List.foldl_cons]
      exact (run_bind _ ((run_bind _ hcolon).trans (run_bind _ hvalue))).trans (ih (by omega) _)

/-- A value that is written as described is read. -/
theorem value_of_valueAt {depth : Nat} {json : Json} (hfits : cursor.Fits)
    (h : ValueAt depth (cursor.dropWhile isSpace) json next) :
    value (depth + 1) cursor = .ok json next := by
  have hstart : (cursor.dropWhile isSpace).Fits := hfits.of_follows (dropWhile_follows _ _)
  have hpeek {c : Char} {rest : List Char} (hrest : (cursor.dropWhile isSpace).rest = c :: rest) :
      peekToken? cursor = .ok (some c) (cursor.dropWhile isSpace) := by
    rw [peekToken?_eq, hrest, List.head?_cons]
  cases h with
  | null hrest hword | yes hrest hword | no hrest hword =>
      exact (run_bind _ (hpeek hrest)).trans ((run_bind _ (skipChar_eq hrest)).trans
        (run_bind _ hword))
  | text hrest hbody =>
      exact (run_bind _ (hpeek hrest)).trans ((run_bind _ (skipChar_eq hrest)).trans
        (run_bind _ hbody))
  | @number c rest _ _ hrest hsign hnumber hscalar =>
      unfold value
      rw [run_bind _ (hpeek hrest)]
      generalize hsome : some c = c?
      split
      · cases hsome
      · cases hsome
        simp [isDigit] at hsign
      · cases hsome
        simp [isDigit] at hsign
      · cases hsome
        exact hscalar
  | list hrest hdepth hitems hclose =>
      have htail := hstart.of_follows (Advances.skipChar (skipChar_eq hrest))
      have hfold := foldItems_of_itemsAt hitems (Nat.lt_succ_of_le htail) []
      rw [List.append_nil] at hfold
      refine (run_bind _ (hpeek hrest)).trans ((nested_eq_ok hrest).mpr ⟨hdepth, ?_⟩)
      refine bind_eq_ok.mpr ⟨_, _, thenClose_eq_ok.mpr ⟨_, bind_eq_ok.mpr ⟨_, _, rfl,
        bind_eq_ok.mpr ⟨_, _, hfold, rfl⟩⟩, hclose⟩, ?_⟩
      rw [List.reverse_reverse]
      rfl
  | object hrest hdepth hmembers hclose =>
      have htail := hstart.of_follows (Advances.skipChar (skipChar_eq hrest))
      have hfold := foldMembers_of_membersAt hmembers (Nat.lt_succ_of_le htail)
        (fun members key json => insertMember key json members) []
      refine (run_bind _ (hpeek hrest)).trans ((nested_eq_ok hrest).mpr ⟨hdepth, ?_⟩)
      exact bind_eq_ok.mpr ⟨_, _, thenClose_eq_ok.mpr
        ⟨_, bind_eq_ok.mpr ⟨_, _, rfl, hfold⟩, hclose⟩, rfl⟩

/-! ## What the first character tells -/

/-- Whether a character may start a value. -/
def Starts (c : Char) : Json → Prop
  | .null => c = 'n'
  | .boolean value => c = if value then 't' else 'f'
  | .integer _ | .real _ => c = '-' ∨ isDigit c
  | .string _ => c = '"'
  | .array _ => c = '['
  | .object _ => c = '\x7b'

theorem ValueAt.starts {depth : Nat} {start : Cursor} {json : Json}
    (h : ValueAt depth start json next) :
    ∃ c rest, start.rest = c :: rest ∧ Starts c json := by
  cases h with
  | null hrest | yes hrest | no hrest | text hrest | list hrest | object hrest =>
      exact ⟨_, _, hrest, rfl⟩
  | number hrest hsign hnumber =>
      cases hnumber with
      | integer | real => exact ⟨_, _, hrest, hsign⟩

theorem Starts.eq_null {json : Json} (h : Starts 'n' json) : json = .null := by
  cases json with
  | null => rfl
  | boolean value => cases value <;> simp [Starts] at h
  | _ => simp [Starts, isDigit] at h

theorem Starts.eq_string {json : Json} (h : Starts '"' json) : ∃ text, json = .string text := by
  cases json with
  | string text => exact ⟨text, rfl⟩
  | boolean value => cases value <;> simp [Starts] at h
  | _ => simp [Starts, isDigit] at h

theorem ValueAt.members {depth : Nat} {start : Cursor} {json : Json}
    (h : ValueAt depth start json next) (hstarts : Starts '\x7b' json) :
    ∃ rest members last, start.rest = '\x7b' :: rest ∧ 0 < depth ∧ json = .ofMembers members ∧
      MembersAt depth true (start.tail '\x7b' rest) members last ∧
      closeObject last = .ok () next := by
  cases h with
  | object hrest hdepth hmembers hclose => exact ⟨_, _, _, hrest, hdepth, rfl, hmembers, hclose⟩
  | null | yes | no | text | list => simp [Starts] at hstarts
  | number _ _ hnumber =>
      cases hnumber with
      | integer | real => simp [Starts, isDigit] at hstarts

/-! ## Whole texts -/

theorem readAll_eq_ok {α : Type} {reader : Reader α} {text : String} {result : α} :
    readAll reader text = .ok result ↔
      ∃ next, reader (.start text) = .ok result next ∧ (next.dropWhile isSpace).rest = [] := by
  unfold readAll
  have hbind {rest : α → Reader α} : (reader >>= rest) (.start text) =
      EStateM.bind reader rest (.start text) := rfl
  simp only [hbind, EStateM.bind]
  cases hread : reader (.start text) with
  | error fault next => exact iff_of_false nofun nofun
  | ok value next =>
      simp only [run_bind _ (peekToken?_eq next)]
      cases hrest : (next.dropWhile isSpace).rest with
      | nil =>
          show Except.ok value = .ok result ↔ _
          rw [Except.ok.injEq]
          constructor
          · rintro rfl
            exact ⟨next, rfl, hrest⟩
          · rintro ⟨_, hsame, -⟩
            cases hsame
            rfl
      | cons c rest =>
          refine iff_of_false nofun ?_
          rintro ⟨_, hsame, hend⟩
          cases hsame
          rw [hrest] at hend
          cases hend

/-- The members of the object that a text holds, in the order in which they are written and with
all repetitions. -/
def writtenMembers (text : String) : Except Fault Members := readAll object text
where
  /-- Reads an object. -/
  object : Reader Members := do
    match ← peekToken? with
    | some '\x7b' => nested maxDepth fun depth => do
      let member (members : Members) (key : String) : Reader Members := do
        colon
        return (key, ← value depth) :: members
      let members := do return (← foldMembers member (← bound) true []).reverse
      thenClose members closeObject
    | _ => failNext .expectedValue

/-- The members are listed as they are written. -/
theorem writtenMembers_eq {text : String} {rest : List Char} {members : Members} {last : Cursor}
    (hrest : ((Cursor.start text).dropWhile isSpace).rest = '\x7b' :: rest)
    (hmembers : MembersAt (maxDepth - 1) true
      (((Cursor.start text).dropWhile isSpace).tail '\x7b' rest) members last)
    (hclose : closeObject last = .ok () next) (hend : (next.dropWhile isSpace).rest = []) :
    writtenMembers text = .ok members := by
  have htakes : (Cursor.start text).Takes '\x7b' _ := ⟨rest, hrest, rfl⟩
  have htail := (Cursor.fits_start text).of_follows htakes.follows.1
  refine readAll_eq_ok.mpr ⟨next, (run_bind _ htakes.peekToken?).trans ?_, hend⟩
  refine (nested_eq_ok hrest).mpr ⟨by decide, thenClose_eq_ok.mpr ⟨last, ?_, hclose⟩⟩
  have hfold := foldMembers_of_membersAt hmembers (Nat.lt_succ_of_le htail)
    (fun members key json => (key, json) :: members) []
  rw [List.foldl_flip_cons_eq_append, List.map_id', List.append_nil] at hfold
  refine (run_bind _ rfl).trans ((run_bind _ hfold).trans ?_)
  rw [List.reverse_reverse]
  rfl

/-- Members that are listed are written so. -/
theorem membersAt_of_writtenMembers {text : String} {members : Members}
    (h : writtenMembers text = .ok members) :
    ∃ rest last next, ((Cursor.start text).dropWhile isSpace).rest = '\x7b' :: rest ∧
      MembersAt (maxDepth - 1) true (((Cursor.start text).dropWhile isSpace).tail '\x7b' rest)
        members last ∧
      closeObject last = .ok () next ∧ (next.dropWhile isSpace).rest = [] := by
  obtain ⟨next, hobject, hend⟩ := readAll_eq_ok.mp h
  obtain ⟨c?, start, hpeek, hcase⟩ := bind_eq_ok.mp hobject
  obtain ⟨rfl, hhead⟩ := of_peekToken? hpeek
  split at hcase
  · obtain ⟨rest, hrest⟩ := List.head?_eq_some_iff.mp hhead
    obtain ⟨-, hbody⟩ := (nested_eq_ok hrest).mp hcase
    obtain ⟨last, hread, hclose⟩ := thenClose_eq_ok.mp hbody
    obtain ⟨fuel, _, hbound, hread⟩ := bind_eq_ok.mp hread
    cases hbound
    obtain ⟨read, _, hfold, hpure⟩ := bind_eq_ok.mp hread
    obtain ⟨rfl, rfl⟩ := pure_eq_ok.mp hpure
    have htakes : (Cursor.start text).Takes '\x7b' _ := ⟨rest, hrest, rfl⟩
    have htail := (Cursor.fits_start text).of_follows htakes.follows.1
    obtain ⟨members, hmembers, rfl⟩ := membersAt_of_foldMembers hfold (Nat.lt_succ_of_le htail)
    refine ⟨rest, _, next, hrest, ?_, hclose, hend⟩
    rwa [List.foldl_flip_cons_eq_append, List.map_id', List.append_nil, List.reverse_reverse]
  · exact absurd hcase failNext_ne_ok

/-! ## Members by key -/

variable {key : String} {json : Json} {members : Members}

theorem lookup_cons_eq (other : String) :
    ((other, json) :: members).lookup key =
      if key = other then some json else members.lookup key := by
  rw [List.lookup_cons]
  by_cases hkey : key = other
  · simp [hkey]
  · simp [hkey, beq_eq_false_iff_ne.mpr hkey]

theorem lookup_insertMember (other : String) :
    (insertMember other json members).lookup key =
      if key = other then some json else members.lookup key := by
  induction members with
  | nil => exact lookup_cons_eq other
  | cons member members ih =>
      obtain ⟨name, value⟩ := member
      unfold insertMember
      split
      · exact lookup_cons_eq other
      · split
        · rename_i hsame
          rw [lookup_cons_eq, lookup_cons_eq, hsame]
          split <;> rfl
        · rename_i hother
          rw [lookup_cons_eq, lookup_cons_eq, ih]
          by_cases hkey : key = name
          · rw [if_pos hkey, if_pos hkey, if_neg (hkey ▸ Ne.symm hother)]
          · rw [if_neg hkey, if_neg hkey]

/-- In an object, the last of several members with one key counts. -/
theorem lookup_foldl_insertMember (members sorted : Members) :
    (members.foldl (fun sorted member => insertMember member.1 member.2 sorted) sorted).lookup key =
      (members.reverse.lookup key).or (sorted.lookup key) := by
  induction members generalizing sorted with
  | nil => rfl
  | cons member members ih =>
      obtain ⟨other, json⟩ := member
      rw [List.foldl_cons, ih, lookup_insertMember, List.reverse_cons, List.lookup_append,
        lookup_cons_eq, Option.or_assoc]
      split <;> rfl

/-- A member whose key is not repeated is the one that counts. -/
theorem lookup_of_mem (hmem : (key, json) ∈ members)
    (honce : (members.map (·.1)).count key ≤ 1) : members.lookup key = some json := by
  induction members with
  | nil => cases hmem
  | cons member members ih =>
      obtain ⟨other, value⟩ := member
      rw [lookup_cons_eq]
      by_cases hkey : key = other
      · subst hkey
        rw [List.map_cons, List.count_cons_self] at honce
        have hrest : key ∉ members.map (·.1) := List.count_eq_zero.mp (by omega)
        rcases List.mem_cons.mp hmem with hsame | hmem
        · cases hsame
          exact if_pos rfl
        · exact absurd (List.mem_map_of_mem hmem) hrest
      · rw [List.map_cons, List.count_cons_of_ne (Ne.symm hkey)] at honce
        rcases List.mem_cons.mp hmem with hsame | hmem
        · cases hsame
          exact absurd rfl hkey
        · rw [if_neg hkey]
          exact ih hmem honce

/-- In an object that is made of members, a member whose key is not repeated is found. -/
theorem lookup_of_written {sorted : Members} (hsorted : Json.object sorted = .ofMembers members)
    (hmem : (key, json) ∈ members) (honce : (members.map (·.1)).count key ≤ 1) :
    sorted.lookup key = some json := by
  rw [Json.object.inj hsorted, lookup_foldl_insertMember]
  have hreverse : members.reverse.lookup key = some json :=
    lookup_of_mem (List.mem_reverse.mpr hmem) (by rwa [List.map_reverse, List.count_reverse])
  rw [hreverse]
  rfl

theorem mem_of_lookup (h : members.lookup key = some json) : (key, json) ∈ members := by
  obtain ⟨before, after, rfl, -⟩ := List.lookup_eq_some_iff.mp h
  exact List.mem_append_right _ List.mem_cons_self

/-- What is found in an object that is made of members is one of them. -/
theorem mem_of_lookup_written {sorted : Members}
    (hsorted : Json.object sorted = .ofMembers members) (h : sorted.lookup key = some json) :
    (key, json) ∈ members := by
  rw [Json.object.inj hsorted, lookup_foldl_insertMember] at h
  have hreverse : members.reverse.lookup key = some json := by simpa using h
  exact List.mem_reverse.mp (mem_of_lookup hreverse)

end ToolDiscovery.Json
