import Mathlib.Data.List.Forall2
import ToolDiscovery.Json.Record
import ToolDiscovery.Proofs.Skipping

/-!
# Decoders read the values of a text

A decoder is faithful if it reads from a text what it reads from the value that stands there. From
an object it may read less: an object with a repeated key is a value, in which the last one counts.
-/

namespace ToolDiscovery.Json

variable {α β : Type} {depth : Nat} {cursor next stop : Cursor} {json : Json}

theorem except_bind_eq_ok {ε : Type} {first : Except ε α} {rest : α → Except ε β} {result : β} :
    (first >>= rest) = .ok result ↔ ∃ value, first = .ok value ∧ rest value = .ok result := by
  cases first with
  | error fault => exact iff_of_false nofun nofun
  | ok value => exact ⟨fun h => ⟨value, rfl, h⟩, fun ⟨_, hvalue, h⟩ => Except.ok.inj hvalue ▸ h⟩

theorem except_mapError_eq_ok {ε η : Type} {first : Except ε α} {f : ε → η} {result : α} :
    first.mapError f = .ok result ↔ first = .ok result := by
  cases first with
  | error fault => exact iff_of_false nofun nofun
  | ok value => exact ⟨fun h => congrArg Except.ok (Except.ok.inj h), fun h => h ▸ rfl⟩

/-- Inputs are read one by one. -/
theorem mapM_cons_eq_ok {ε : Type} {f : α → Except ε β} {input : α} {inputs : List α}
    {results : List β} : (input :: inputs).mapM f = .ok results ↔
      ∃ result more, f input = .ok result ∧ inputs.mapM f = .ok more ∧
        results = result :: more := by
  rw [List.mapM_cons, except_bind_eq_ok]
  constructor
  · rintro ⟨result, hresult, hrest⟩
    obtain ⟨more, hmore, hpure⟩ := except_bind_eq_ok.mp hrest
    exact ⟨result, more, hresult, hmore, (Except.ok.inj hpure).symm⟩
  · rintro ⟨result, more, hresult, hmore, rfl⟩
    exact ⟨result, hresult, except_bind_eq_ok.mpr ⟨more, hmore, rfl⟩⟩

/-- All inputs are read if each is read as the result in its place. -/
theorem mapM_eq_ok {ε : Type} {f : α → Except ε β} {inputs : List α} {results : List β} :
    inputs.mapM f = .ok results ↔
      List.Forall₂ (fun input result => f input = .ok result) inputs results := by
  induction inputs generalizing results with
  | nil =>
      rw [List.forall₂_nil_left_iff, List.mapM_nil]
      show Except.ok [] = Except.ok results ↔ _
      rw [Except.ok.injEq, eq_comm]
  | cons input inputs ih =>
      rw [List.forall₂_cons_left_iff, mapM_cons_eq_ok]
      simp only [ih]

/-- A decoder reads from a text what it reads from the value that stands there, and to its end. An
object may be refused in a text. -/
structure Decoder.Faithful (decoder : Decoder α) : Prop where
  sound : ∀ {depth cursor json next result stop}, cursor.Fits →
    value depth cursor = .ok json next → decoder.fromText depth cursor = .ok result stop →
    stop = next ∧ decoder.fromJson json = .ok result
  complete : ∀ {depth cursor json next result}, cursor.Fits →
    value depth cursor = .ok json next → (∀ members, json ≠ .object members) →
    decoder.fromJson json = .ok result → decoder.fromText depth cursor = .ok result next

namespace Decoder

theorem failExpected_ne_ok {expected : String} {c : Char} {result : α} :
    failExpected expected c cursor ≠ .ok result next := by
  unfold failExpected
  split
  · exact failAt_ne_ok
  · exact failAt_ne_ok
  · intro h
    obtain ⟨_, _, _, hfail⟩ := bind_eq_ok.mp h
    exact failAt_ne_ok hfail

theorem starting_eq {expected : String} {reader : Char → Option (Reader α)} {c : Char}
    {rest : List Char} (hrest : (cursor.dropWhile isSpace).rest = c :: rest) :
    starting expected reader cursor =
      (reader c).getD (failExpected expected c) (cursor.dropWhile isSpace) := by
  have hpeek : peekToken? cursor = .ok (some c) (cursor.dropWhile isSpace) := by
    rw [peekToken?_eq, hrest]
    rfl
  exact run_bind _ hpeek

/-- A decoder that looks at the first character of a value is faithful if, however the value is
written, it refuses the character together with the value, or goes on to read the same. -/
theorem faithful_of_starting {expected : String} {reader : Char → Option (Reader α)}
    {fromJson : Json → Except Fault α}
    (h : ∀ {depth start json next}, start.Fits → ValueAt depth start json next →
      ∃ c rest, start.rest = c :: rest ∧ ∀ {result stop},
        match reader c with
        | some body => body start = .ok result stop ↔ stop = next ∧ fromJson json = .ok result
        | none => fromJson json ≠ .ok result) :
    Decoder.Faithful ⟨fun _ => starting expected reader, fromJson⟩ := by
  have hiff {depth : Nat} {cursor next : Cursor} {json : Json} {result : α} {stop : Cursor}
      (hfits : cursor.Fits) (hvalue : value depth cursor = .ok json next) :
      starting expected reader cursor = .ok result stop ↔
        stop = next ∧ fromJson json = .ok result := by
    cases depth with
    | zero => exact absurd hvalue failNext_ne_ok
    | succ depth =>
        obtain ⟨c, rest, hrest, hread⟩ :=
          h (hfits.of_follows (dropWhile_follows _ _)) (valueAt_of_ok hfits hvalue)
        specialize @hread result stop
        rw [starting_eq hrest]
        cases hbody : reader c with
        | none =>
            rw [hbody] at hread
            exact iff_of_false failExpected_ne_ok fun hjson => hread hjson.2
        | some body =>
            rw [hbody] at hread
            exact hread
  exact ⟨fun hfits hvalue => (hiff hfits hvalue).mp,
    fun hfits hvalue _ hjson => (hiff hfits hvalue).mpr ⟨rfl, hjson⟩⟩

theorem ok_iff {value result : α} :
    (EStateM.Result.ok value next : EStateM.Result Fault Cursor α) = .ok result stop ↔
      stop = next ∧ (Except.ok value : Except Fault α) = .ok result := by
  rw [EStateM.Result.ok.injEq, Except.ok.injEq, and_comm, eq_comm (a := next)]

theorem string_fromJson {expected text : String} {json : Json} :
    (string expected).fromJson json = .ok text ↔ json = .string text := by
  cases json with
  | string other =>
      show Except.ok other = Except.ok text ↔ _
      rw [Except.ok.injEq, Json.string.injEq]
  | null | boolean | integer | real | array | object => exact iff_of_false nofun nofun

theorem string_faithful (expected : String) : (string expected).Faithful := by
  refine faithful_of_starting fun {depth start json next} _ hwritten => ?_
  cases hwritten with
  | text hrest hbody =>
      refine ⟨_, _, hrest, fun {result stop} => ?_⟩
      show (skipChar >>= fun _ => stringBody) start = _ ↔ _
      rw [run_bind _ (skipChar_eq hrest), hbody]
      exact ok_iff
  | number hrest hsign hnumber =>
      have hquote : ¬('"' = '-' ∨ isDigit '"') := by decide
      refine ⟨_, _, hrest, ?_⟩
      split
      · rename_i hc
        split at hc
        · exact absurd hsign hquote
        · cases hc
      · cases hnumber with
        | integer | real => exact nofun
  | null hrest => exact ⟨_, _, hrest, nofun⟩
  | yes hrest => exact ⟨_, _, hrest, nofun⟩
  | no hrest => exact ⟨_, _, hrest, nofun⟩
  | list hrest => exact ⟨_, _, hrest, nofun⟩
  | object hrest => exact ⟨_, _, hrest, nofun⟩

/-- A text is read from behind its quote. -/
theorem string_eq_ok {expected text : String} :
    (string expected).fromText depth cursor = .ok text next ↔
      ∃ start, cursor.Takes '"' start ∧ stringBody start = .ok text next := by
  constructor
  · intro h
    obtain ⟨c?, start, hpeek, hcase⟩ := bind_eq_ok.mp h
    split at hcase
    · exact absurd hcase failHere_ne_ok
    · dsimp only at hcase
      split at hcase
      · obtain ⟨_, middle, hskip, hbody⟩ := bind_eq_ok.mp hcase
        exact ⟨middle, .of_skipChar hpeek rfl hskip, hbody⟩
      · exact absurd hcase failExpected_ne_ok
  · rintro ⟨start, htakes, hbody⟩
    exact (run_bind _ htakes.peekToken?).trans ((run_bind _ htakes.skipChar).trans hbody)

theorem unit_faithful : unit.Faithful := by
  refine faithful_of_starting fun {depth start json next} _ hwritten => ?_
  cases hwritten with
  | null hrest hword =>
      refine ⟨_, _, hrest, fun {result stop} => ?_⟩
      show (skipChar >>= fun _ => expectIdent "ull".toList) start = _ ↔ _
      rw [run_bind _ (skipChar_eq hrest), hword]
      exact ok_iff
  | number hrest hsign hnumber =>
      have hletter : ¬('n' = '-' ∨ isDigit 'n') := by decide
      refine ⟨_, _, hrest, ?_⟩
      split
      · rename_i hc
        split at hc
        · exact absurd hsign hletter
        · cases hc
      · cases hnumber with
        | integer | real => exact nofun
  | text hrest => exact ⟨_, _, hrest, nofun⟩
  | yes hrest => exact ⟨_, _, hrest, nofun⟩
  | no hrest => exact ⟨_, _, hrest, nofun⟩
  | list hrest => exact ⟨_, _, hrest, nofun⟩
  | object hrest => exact ⟨_, _, hrest, nofun⟩

theorem natural_faithful (expected : String) (greatest : Nat) :
    (natural expected greatest).Faithful := by
  refine faithful_of_starting fun {depth start json next} _ hwritten => ?_
  cases hwritten with
  | number hrest hsign hnumber hscalar =>
      refine ⟨_, _, hrest, fun {result stop} => ?_⟩
      rw [if_pos hsign]
      show (scalar _ >>= fun json => _) start = _ ↔ _
      rw [run_bind _ hscalar]
      cases hnumber with
      | real x => exact iff_of_false nofun nofun
      | @integer n =>
          by_cases hrange : 0 ≤ n ∧ n ≤ greatest
          · simp only [hrange, and_self, if_true]
            exact ok_iff
          · simp only [hrange, if_false]
            exact iff_of_false nofun nofun
  | null hrest => exact ⟨_, _, hrest, nofun⟩
  | yes hrest => exact ⟨_, _, hrest, nofun⟩
  | no hrest => exact ⟨_, _, hrest, nofun⟩
  | text hrest => exact ⟨_, _, hrest, nofun⟩
  | list hrest => exact ⟨_, _, hrest, nofun⟩
  | object hrest => exact ⟨_, _, hrest, nofun⟩

theorem map_faithful {decoder : Decoder α} (h : decoder.Faithful) (f : α → β) :
    (decoder.map f).Faithful where
  sound hfits hvalue htext := by
    obtain ⟨read, _, hread, hpure⟩ := bind_eq_ok.mp htext
    obtain ⟨rfl, rfl⟩ := pure_eq_ok.mp hpure
    obtain ⟨rfl, hjson⟩ := h.sound hfits hvalue hread
    exact ⟨rfl, except_bind_eq_ok.mpr ⟨read, hjson, rfl⟩⟩
  complete hfits hvalue hobject hjson := by
    obtain ⟨read, hread, hpure⟩ := except_bind_eq_ok.mp hjson
    cases hpure
    exact (run_bind _ (h.complete hfits hvalue hobject hread)).trans rfl

theorem option_eq_none {rest : List Char} (decoder : Decoder α)
    (hrest : (cursor.dropWhile isSpace).rest = 'n' :: rest)
    (hword : expectIdent "ull".toList ((cursor.dropWhile isSpace).tail 'n' rest) = .ok () next) :
    (option decoder).fromText depth cursor = .ok none next := by
  have htakes : cursor.Takes 'n' _ := ⟨rest, hrest, rfl⟩
  exact (run_bind _ htakes.peekToken?).trans ((run_bind _ htakes.skipChar).trans (run_bind _ hword))

theorem option_eq_some {c : Char} {rest : List Char} (decoder : Decoder α)
    (hrest : (cursor.dropWhile isSpace).rest = c :: rest) (hc : c ≠ 'n') :
    (option decoder).fromText depth cursor =
      (decoder.fromText depth >>= fun read => pure (some read)) (cursor.dropWhile isSpace) := by
  have htakes : cursor.Takes c _ := ⟨rest, hrest, rfl⟩
  refine (run_bind _ htakes.peekToken?).trans ?_
  generalize hhead : some c = c?
  split
  · exact absurd (Option.some.inj hhead) hc
  · rfl

theorem option_fromJson (decoder : Decoder α) (hnull : json ≠ .null) :
    (option decoder).fromJson json = decoder.fromJson json >>= fun read => pure (some read) := by
  cases json with
  | null => contradiction
  | _ => rfl

/-- Where a value may be absent, it is read as such or as what it is behind the white space. -/
theorem option_run (decoder : Decoder α) (hfits : cursor.Fits)
    (hvalue : value depth cursor = .ok json next) :
    json = .null ∧ (option decoder).fromText depth cursor = .ok none next ∨
      json ≠ .null ∧ (option decoder).fromText depth cursor =
        (decoder.fromText depth >>= fun read => pure (some read)) (cursor.dropWhile isSpace) := by
  cases depth with
  | zero => exact absurd hvalue failNext_ne_ok
  | succ depth =>
      have hwritten := valueAt_of_ok hfits hvalue
      by_cases hnull : json = .null
      · subst hnull
        cases hwritten with
        | null hrest hword => exact .inl ⟨rfl, option_eq_none decoder hrest hword⟩
        | number _ _ hnumber => cases hnumber
      · obtain ⟨c, rest, hrest, hstarts⟩ := hwritten.starts
        have hc : c ≠ 'n' := by
          rintro rfl
          exact hnull hstarts.eq_null
        exact .inr ⟨hnull, option_eq_some decoder hrest hc⟩

theorem option_faithful {decoder : Decoder α} (h : decoder.Faithful) :
    (option decoder).Faithful where
  sound hfits hvalue htext := by
    rcases option_run decoder hfits hvalue with ⟨rfl, hrun⟩ | ⟨hnull, hrun⟩
    · rw [hrun] at htext
      cases htext
      exact ⟨rfl, rfl⟩
    · rw [hrun] at htext
      obtain ⟨read, _, hread, hpure⟩ := bind_eq_ok.mp htext
      obtain ⟨rfl, rfl⟩ := pure_eq_ok.mp hpure
      obtain ⟨rfl, hjson⟩ := h.sound (hfits.of_follows (dropWhile_follows _ _))
        (value_dropWhile.mpr hvalue) hread
      rw [option_fromJson decoder hnull, hjson]
      exact ⟨rfl, rfl⟩
  complete hfits hvalue hobject hjson := by
    rcases option_run decoder hfits hvalue with ⟨rfl, hrun⟩ | ⟨hnull, hrun⟩
    · cases hjson
      exact hrun
    · rw [option_fromJson decoder hnull] at hjson
      obtain ⟨read, hread, hpure⟩ := except_bind_eq_ok.mp hjson
      cases hpure
      rw [hrun]
      exact run_bind _ (h.complete (hfits.of_follows (dropWhile_follows _ _))
        (value_dropWhile.mpr hvalue) hobject hread)

end Decoder

/-! ## Lists -/

namespace Decoder

variable {decoder : Decoder α} {first : Bool} {fuel : Nat} {items : List Json}
  {read result : List α}

/-- Reads one more item of a list, which are collected backwards. -/
def pushItem (decoder : Decoder α) (depth : Nat) (items : List α) : Reader (List α) :=
  return (← decoder.fromText depth) :: items

theorem foldItems_sound (h : decoder.Faithful) (hfits : cursor.Fits)
    (hitems : ItemsAt depth first cursor items next) (hfuel : cursor.rest.length < fuel)
    (hread : foldItems (decoder.pushItem depth) fuel first read cursor = .ok result stop) :
    stop = next ∧
      ∃ more, items.mapM decoder.fromJson = .ok more ∧ result = more.reverse ++ read := by
  induction hitems generalizing fuel read with
  | done hdone =>
      obtain ⟨fuel, rfl⟩ := Nat.exists_eq_succ_of_ne_zero (Nat.ne_zero_of_lt hfuel)
      cases (run_bind _ hdone).symm.trans hread
      exact ⟨rfl, [], rfl, rfl⟩
  | more hitem hvalue hrest ih =>
      obtain ⟨fuel, rfl⟩ := Nat.exists_eq_succ_of_ne_zero (Nat.ne_zero_of_lt hfuel)
      have hstart := Advances.hasItem _ hitem
      have hstop := (Advances.value depth hvalue).trans hstart
      have hlength := (value_takes hvalue).2
      have hstartLength := hstart.length
      obtain ⟨state, _, hstep, hmore⟩ := bind_eq_ok.mp ((run_bind _ hitem).symm.trans hread)
      obtain ⟨value, _, htext, hpure⟩ := bind_eq_ok.mp hstep
      obtain ⟨rfl, rfl⟩ := pure_eq_ok.mp hpure
      obtain ⟨rfl, hjson⟩ := h.sound (hfits.of_follows hstart) hvalue htext
      -- The item took a character, so the bound that is left is above what is left of the text.
      obtain ⟨rfl, more, hmapM, rfl⟩ := ih (hfits.of_follows hstop) (by omega) hmore
      refine ⟨rfl, value :: more, mapM_cons_eq_ok.mpr ⟨value, more, hjson, hmapM, rfl⟩, ?_⟩
      rw [List.reverse_cons, List.append_assoc, List.singleton_append]

theorem foldItems_complete (h : decoder.Faithful)
    (hobject : ∀ members result, decoder.fromJson (.object members) ≠ .ok result)
    (hfits : cursor.Fits) (hitems : ItemsAt depth first cursor items next)
    (hfuel : cursor.rest.length < fuel) {more : List α}
    (hmapM : items.mapM decoder.fromJson = .ok more) (read : List α) :
    foldItems (decoder.pushItem depth) fuel first read cursor =
      .ok (more.reverse ++ read) next := by
  induction hitems generalizing fuel read more with
  | done hdone =>
      obtain ⟨fuel, rfl⟩ := Nat.exists_eq_succ_of_ne_zero (Nat.ne_zero_of_lt hfuel)
      cases hmapM
      exact run_bind _ hdone
  | more hitem hvalue hrest ih =>
      obtain ⟨fuel, rfl⟩ := Nat.exists_eq_succ_of_ne_zero (Nat.ne_zero_of_lt hfuel)
      have hstart := Advances.hasItem _ hitem
      have hstop := (Advances.value depth hvalue).trans hstart
      have hlength := (value_takes hvalue).2
      have hstartLength := hstart.length
      obtain ⟨value, more, hjson, hrestMapM, rfl⟩ := mapM_cons_eq_ok.mp hmapM
      have htext := h.complete (hfits.of_follows hstart) hvalue
        (fun members hsame => hobject members value (hsame ▸ hjson)) hjson
      rw [List.reverse_cons, List.append_assoc, List.singleton_append]
      exact (run_bind _ hitem).trans (bind_eq_ok.mpr
        ⟨_, _, bind_eq_ok.mpr ⟨value, _, htext, rfl⟩,
          ih (hfits.of_follows hstop) (by omega) hrestMapM (value :: read)⟩)

/-- What is left of a list after its bracket: the items and the bracket at the end. -/
def listBody (decoder : Decoder α) (depth : Nat) : Reader (List α) :=
  thenClose (do return (← foldItems (decoder.pushItem depth) (← bound) true []).reverse) closeList

theorem listBody_eq_ok : decoder.listBody depth cursor = .ok result next ↔
    ∃ last, foldItems (decoder.pushItem depth) (cursor.size + 1) true [] cursor =
      .ok result.reverse last ∧ closeList last = .ok () next := by
  unfold listBody
  rw [thenClose_eq_ok]
  refine exists_congr fun last => and_congr_left fun _ => ?_
  rw [run_bind _ (show bound cursor = .ok (cursor.size + 1) cursor from rfl), bind_eq_ok]
  constructor
  · rintro ⟨items, _, hfold, hpure⟩
    obtain ⟨rfl, rfl⟩ := pure_eq_ok.mp hpure
    rwa [List.reverse_reverse]
  · intro hfold
    exact ⟨_, _, hfold, by rw [List.reverse_reverse]; rfl⟩

theorem list_fromText {rest : List Char}
    (hrest : (cursor.dropWhile isSpace).rest = '[' :: rest) (hdepth : 0 < depth) :
    (list decoder).fromText (depth + 1) cursor = .ok result next ↔
      decoder.listBody depth ((cursor.dropWhile isSpace).tail '[' rest) = .ok result next := by
  show starting _ _ cursor = _ ↔ _
  rw [starting_eq hrest]
  exact (nested_eq_ok hrest).trans (and_iff_right hdepth)

theorem list_fromText_ne_ok {c : Char} {rest : List Char}
    (hrest : (cursor.dropWhile isSpace).rest = c :: rest) (hc : c ≠ '[') :
    (list decoder).fromText depth cursor ≠ .ok result next := by
  show starting _ _ cursor ≠ _
  rw [starting_eq hrest]
  split
  · exact absurd rfl hc
  · exact failExpected_ne_ok

/-- A list is read item by item, if no item is read from an object. -/
theorem list_faithful (h : decoder.Faithful)
    (hobject : ∀ members result, decoder.fromJson (.object members) ≠ .ok result) :
    (list decoder).Faithful where
  sound {depth cursor json next result stop} hfits hvalue htext := by
    cases depth with
    | zero => exact absurd hvalue failNext_ne_ok
    | succ depth =>
        have hstart : (cursor.dropWhile isSpace).Fits := hfits.of_follows (dropWhile_follows _ _)
        cases valueAt_of_ok hfits hvalue with
        | list hrest hdepth hitems hclose =>
            have htail := hstart.of_follows (Advances.skipChar (skipChar_eq hrest))
            obtain ⟨last, hfold, hend⟩ := listBody_eq_ok.mp ((list_fromText hrest hdepth).mp htext)
            obtain ⟨rfl, more, hmapM, hresult⟩ :=
              foldItems_sound h htail hitems (Nat.lt_succ_of_le htail) hfold
            rw [List.append_nil, List.reverse_inj] at hresult
            cases hend.symm.trans hclose
            exact ⟨rfl, hresult ▸ hmapM⟩
        | number hrest hsign =>
            refine absurd htext (list_fromText_ne_ok hrest ?_)
            rintro rfl
            exact absurd hsign (by decide)
        | null hrest | yes hrest | no hrest | text hrest | object hrest =>
            exact absurd htext (list_fromText_ne_ok hrest (by decide))
  complete {depth cursor json next result} hfits hvalue hplain hjson := by
    cases depth with
    | zero => exact absurd hvalue failNext_ne_ok
    | succ depth =>
        have hstart : (cursor.dropWhile isSpace).Fits := hfits.of_follows (dropWhile_follows _ _)
        cases valueAt_of_ok hfits hvalue with
        | list hrest hdepth hitems hclose =>
            have htail := hstart.of_follows (Advances.skipChar (skipChar_eq hrest))
            have hfold :=
              foldItems_complete h hobject htail hitems (Nat.lt_succ_of_le htail) hjson []
            rw [List.append_nil] at hfold
            exact (list_fromText hrest hdepth).mpr (listBody_eq_ok.mpr ⟨_, hfold, hclose⟩)
        | number _ _ hnumber =>
            cases hnumber with
            | integer | real => cases hjson
        | null | yes | no | text | object => cases hjson

end Decoder

/-! ## Variants -/

namespace Variants

variable {variants : Variants α} {payload : Payload α}

theorem readName_eq_ok : variants.readName depth cursor = .ok payload next ↔
    ∃ name, (Decoder.string "variant identifier").fromText depth cursor = .ok name next ∧
      variants.find name = .ok payload := by
  unfold readName
  rw [bind_eq_ok]
  constructor
  · rintro ⟨name, middle, hname, hcase⟩
    cases hfind : variants.find name with
    | error cause =>
        rw [hfind] at hcase
        exact absurd hcase failAt_ne_ok
    | ok found =>
        rw [hfind] at hcase
        obtain ⟨rfl, rfl⟩ := pure_eq_ok.mp hcase
        exact ⟨name, hname, hfind⟩
  · rintro ⟨name, hname, hfind⟩
    refine ⟨name, next, hname, ?_⟩
    rw [hfind]
    rfl

theorem takes_of_closeVariant (h : closeVariant cursor = .ok () next) :
    cursor.Takes '\x7d' next := by
  unfold closeVariant at h
  obtain ⟨c?, start, hpeek, hcase⟩ := bind_eq_ok.mp h
  split at hcase
  · exact absurd hcase failHere_ne_ok
  · exact .of_skipChar hpeek rfl hcase
  · exact absurd hcase failHere_ne_ok

/-- A variant that is written as its name alone. -/
def alone (variants : Variants α) (depth : Nat) : Reader α := do
  match Payload.bare (← variants.readName depth) with
  | .ok value => pure value
  | .error cause => failWith cause

theorem fromJson_string {name : String} {result : α} :
    variants.decoder.fromJson (.string name) = .ok result ↔
      ∃ payload, variants.find name = .ok payload ∧ Payload.bare payload = .ok result := by
  show ((variants.find name).bind Payload.bare).mapError _ = _ ↔ _
  cases hfind : variants.find name with
  | error cause => exact iff_of_false nofun nofun
  | ok payload =>
      show (Payload.bare payload).mapError _ = _ ↔ _
      constructor
      · intro h
        cases hbare : Payload.bare payload with
        | error cause =>
            rw [hbare] at h
            cases h
        | ok value =>
            rw [hbare] at h
            cases h
            exact ⟨payload, rfl, hbare⟩
      · rintro ⟨_, hsame, hbare⟩
        cases hsame
        rw [hbare]
        rfl

theorem fromJson_member {name : String} (h : variants.find name = .ok payload) :
    variants.decoder.fromJson (.object [(name, json)]) =
      (Payload.decoder payload).fromJson json := by
  unfold decoder
  simp only [h]

/-- A name is read as the value that it is. -/
theorem alone_eq_ok {result : α} : variants.alone depth cursor = .ok result next ↔
    ∃ name, (Decoder.string "variant identifier").fromText depth cursor = .ok name next ∧
      variants.decoder.fromJson (.string name) = .ok result := by
  unfold alone
  rw [bind_eq_ok]
  constructor
  · rintro ⟨payload, middle, hread, hbare⟩
    obtain ⟨name, hname, hfind⟩ := readName_eq_ok.mp hread
    cases hvalue : Payload.bare payload with
    | error cause =>
        rw [hvalue] at hbare
        exact absurd hbare failWith_ne_ok
    | ok value =>
        rw [hvalue] at hbare
        obtain ⟨rfl, rfl⟩ := pure_eq_ok.mp hbare
        exact ⟨name, hname, fromJson_string.mpr ⟨payload, hfind, hvalue⟩⟩
  · rintro ⟨name, hname, hjson⟩
    obtain ⟨payload, hfind, hbare⟩ := fromJson_string.mp hjson
    refine ⟨payload, next, readName_eq_ok.mpr ⟨name, hname, hfind⟩, ?_⟩
    rw [hbare]
    rfl

/-- What is left of a variant after its bracket: the name, the value and the bracket at the end. -/
def inside (variants : Variants α) (depth : Nat) : Reader α := do
  let payload ← variants.readName depth
  colon
  let result ← (Payload.decoder payload).fromText depth
  closeVariant
  pure result

/-- A variant that is written as an object has one member, which is read as it is written. -/
theorem inside_sound (hpayloads : ∀ name payload, variants.find name = .ok payload →
      (Payload.decoder payload).Faithful) (hfits : cursor.Fits) {members : Members} {last : Cursor}
    (hmembers : MembersAt depth true cursor members last) (hclose : closeObject last = .ok () next)
    {result : α} (h : variants.inside depth cursor = .ok result stop) :
    stop = next ∧ variants.decoder.fromJson (.ofMembers members) = .ok result := by
  obtain ⟨payload, sign, hname, h⟩ := bind_eq_ok.mp h
  obtain ⟨_, start, hcolon, h⟩ := bind_eq_ok.mp h
  obtain ⟨read, last, hread, h⟩ := bind_eq_ok.mp h
  obtain ⟨_, _, hend, hpure⟩ := bind_eq_ok.mp h
  obtain ⟨rfl, rfl⟩ := pure_eq_ok.mp hpure
  obtain ⟨name, htext, hfind⟩ := readName_eq_ok.mp hname
  obtain ⟨quoted, hquote, hbody⟩ := Decoder.string_eq_ok.mp htext
  cases hmembers with
  | done hdone =>
      obtain rfl := of_hasMember hdone
      have hbracket := Cursor.Takes.dropWhile_iff.mp (takes_of_closeObject hclose)
      exact absurd (hquote.unique hbracket).1 (by decide)
  | more hmember hkey hsign hvalue hrest =>
      -- The name and the key of the first member are the same text, read twice.
      obtain ⟨-, rfl⟩ := hquote.unique (of_hasMember hmember)
      rw [hbody] at hkey
      cases hkey
      rw [hcolon] at hsign
      cases hsign
      have hstart := hfits.of_follows ((Advances.colon hcolon).trans
        ((Advances.stringBody hbody).trans hquote.follows.1))
      obtain ⟨rfl, hjson⟩ := (hpayloads name payload hfind).sound hstart hvalue hread
      have hbracket := takes_of_closeVariant hend
      cases hrest with
      | done hdone =>
          obtain rfl := of_hasMember hdone
          have hlast := Cursor.Takes.dropWhile_iff.mp (takes_of_closeObject hclose)
          exact ⟨(hbracket.unique hlast).2, (fromJson_member hfind).trans hjson⟩
      | more hmember =>
          obtain ⟨_, hcomma, -⟩ := of_hasMember hmember
          exact absurd (hbracket.unique hcomma).1 (by decide)

theorem faithful (hpayloads : ∀ name payload, variants.find name = .ok payload →
    (Payload.decoder payload).Faithful) : variants.decoder.Faithful where
  sound {depth cursor json next result stop} hfits hvalue htext := by
    cases depth with
    | zero => exact absurd hvalue failNext_ne_ok
    | succ depth =>
        have hwritten := valueAt_of_ok hfits hvalue
        have hstart : (cursor.dropWhile isSpace).Fits := hfits.of_follows (dropWhile_follows _ _)
        obtain ⟨c, rest, hrest, hstarts⟩ := hwritten.starts
        obtain ⟨c?, start, hpeek, hcase⟩ := bind_eq_ok.mp htext
        obtain ⟨rfl, hhead⟩ := of_peekToken? hpeek
        rw [hrest, List.head?_cons] at hhead
        split at hcase
        · exact absurd hcase failHere_ne_ok
        · cases hhead
          obtain ⟨rest, members, last, hrest, -, rfl, hmembers, hclose⟩ := hwritten.members hstarts
          have hbody := ((nested_eq_ok hrest).mp hcase).2
          have htail := hstart.of_follows (Advances.skipChar (skipChar_eq hrest))
          exact inside_sound hpayloads htail hmembers hclose hbody
        · cases hhead
          obtain ⟨text, rfl⟩ := hstarts.eq_string
          obtain ⟨name, hread, hjson⟩ := alone_eq_ok.mp hcase
          obtain ⟨rfl, hsame⟩ := (Decoder.string_faithful _).sound hstart
            (value_dropWhile.mpr hvalue) hread
          cases hsame
          exact ⟨rfl, hjson⟩
        · exact absurd hcase failNext_ne_ok
  complete {depth cursor json next result} hfits hvalue hobject hjson := by
    cases json with
    | string text =>
        have hname : (Decoder.string "variant identifier").fromText depth
            (cursor.dropWhile isSpace) = .ok text next :=
          (Decoder.string_faithful _).complete (hfits.of_follows (dropWhile_follows _ _))
            (value_dropWhile.mpr hvalue) (fun _ => nofun) rfl
        obtain ⟨_, hquote, -⟩ := Decoder.string_eq_ok.mp hname
        have hpeek := (Cursor.Takes.dropWhile_iff.mp hquote).peekToken?
        exact (run_bind _ hpeek).trans (alone_eq_ok.mpr ⟨text, hname, hjson⟩)
    | object members => exact absurd rfl (hobject members)
    | _ => cases hjson

end Variants

end ToolDiscovery.Json
