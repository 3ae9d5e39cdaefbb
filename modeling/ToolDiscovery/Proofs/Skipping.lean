import ToolDiscovery.Proofs.WrittenValues

/-!
# Passing over a value

What can be read as a value can be passed over, and both end in the same place:
`skipValue_of_value`. Reading follows the brackets of a value by recursion, passing over keeps the
brackets that are open in a list. The two are related by what is left to do when a value ends
(`GoesOn`), for any result that this comes to.
-/

namespace ToolDiscovery.Json

variable {cursor middle next : Cursor}

/-! ## Texts -/

theorem of_expectInPair {expected : Char} (h : expectInPair expected cursor = .ok () next) :
    ∃ rest, cursor.rest = expected :: rest ∧ next = cursor.tail expected rest := by
  unfold expectInPair at h
  obtain ⟨c?, _, hpeek, hcase⟩ := bind_eq_ok.mp h
  obtain ⟨rfl, hhead⟩ := of_peek? hpeek
  cases c? with
  | none => exact absurd hcase failHere_ne_ok
  | some c =>
      by_cases hexpected : c = expected
      · subst hexpected
        obtain ⟨rest, hrest⟩ := List.head?_eq_some_iff.mp hhead
        simp only [if_true] at hcase
        rw [skipChar_eq hrest] at hcase
        cases hcase
        exact ⟨rest, hrest, rfl⟩
      · simp only [hexpected, if_false] at hcase
        exact absurd hcase failNext_ne_ok

theorem skipEscape_unicode {rest : List Char} {n : Nat} (hrest : cursor.rest = 'u' :: rest)
    (h : hexEscape (cursor.tail 'u' rest) = .ok n next) : skipEscape cursor = .ok () next := by
  have hhead : cursor.rest.head? = some 'u' := by rw [hrest, List.head?_cons]
  unfold skipEscape
  rw [run_bind _ (peek?_eq hhead)]
  exact (run_bind _ (skipChar_eq hrest)).trans (run_bind _ h)

/-- What is read as one escape is passed over as one or, where it is a pair of surrogates, as
two. -/
theorem skipEscape_of_escape {meant : Char} (h : escape cursor = .ok meant next) :
    skipEscape cursor = .ok () next ∨
      ∃ middle rest, skipEscape cursor = .ok () middle ∧ middle.rest = '\\' :: rest ∧
        skipEscape (middle.tail '\\' rest) = .ok () next := by
  unfold escape at h
  obtain ⟨c?, _, hpeek, hcase⟩ := bind_eq_ok.mp h
  obtain ⟨rfl, hhead⟩ := of_peek? hpeek
  split at hcase
  · exact absurd hcase failHere_ne_ok
  · obtain ⟨rest, hrest⟩ := List.head?_eq_some_iff.mp hhead
    rw [run_bind _ (skipChar_eq hrest)] at hcase
    unfold unicodeEscape at hcase
    obtain ⟨first, middle, hfirst, hunit⟩ := bind_eq_ok.mp hcase
    have hskip := skipEscape_unicode hrest hfirst
    split at hunit
    · exact absurd hunit failHere_ne_ok
    · split at hunit
      · obtain ⟨_, _, hbackslash, hpair⟩ := bind_eq_ok.mp hunit
        obtain ⟨rest, hmiddle, rfl⟩ := of_expectInPair hbackslash
        obtain ⟨_, _, hletter, hlast⟩ := bind_eq_ok.mp hpair
        obtain ⟨_, hstart, rfl⟩ := of_expectInPair hletter
        obtain ⟨second, stop, hsecond, hmeant⟩ := bind_eq_ok.mp hlast
        split at hmeant
        · obtain ⟨-, rfl⟩ := pure_eq_ok.mp hmeant
          exact .inr ⟨middle, rest, hskip, hmiddle, skipEscape_unicode hstart hsecond⟩
        · exact absurd hmeant failHere_ne_ok
      · obtain ⟨-, rfl⟩ := pure_eq_ok.mp hunit
        exact .inl hskip
  · rename_i c hletter
    cases hmeant : simpleEscape? c with
    | none =>
        simp only [hmeant] at hcase
        exact absurd hcase failNext_ne_ok
    | some meant =>
        simp only [hmeant] at hcase
        obtain ⟨_, _, hskip, hpure⟩ := bind_eq_ok.mp hcase
        cases hpure
        refine .inl ?_
        unfold skipEscape
        rw [run_bind _ hpeek]
        simp only [hmeant, Option.isSome_some, if_true]
        exact hskip

theorem Advances.skipEscape : Advances skipEscape := by
  unfold Json.skipEscape
  refine bind peek? fun c? => ?_
  split
  · exact failHere _
  · exact bind skipChar fun _ => bind hexEscape fun _ => pure _
  · exact ite skipChar (failNext _)

theorem skipStringAfter_escape {fuel : Nat} {rest : List Char}
    (hrest : (cursor.dropWhile isPlain).rest = '\\' :: rest)
    (h : skipEscape ((cursor.dropWhile isPlain).tail '\\' rest) = .ok () next) :
    skipStringAfter (fuel + 1) cursor = skipStringAfter fuel next := by
  have hhead : (cursor.dropWhile isPlain).rest.head? = some '\\' := by rw [hrest, List.head?_cons]
  rw [skipStringAfter, run_bind _ (takeWhile_eq isPlain cursor), run_bind _ (peek?_eq hhead)]
  exact (run_bind _ (skipChar_eq hrest)).trans (run_bind _ h)

/-- Each escape of a pair counts for itself in passing over, so that the bound there is one for the
characters. -/
theorem skipStringAfter_of_stringAfter {fuel bound : Nat} {read : List Char} {text : String}
    (h : stringAfter fuel read cursor = .ok text next) (hbound : cursor.rest.length < bound) :
    skipStringAfter bound cursor = .ok () next := by
  induction fuel generalizing cursor read bound with
  | zero => exact absurd h failHere_ne_ok
  | succ fuel ih =>
      obtain ⟨bound, rfl⟩ := Nat.exists_eq_succ_of_ne_zero (Nat.ne_zero_of_lt hbound)
      have hdrop := (dropWhile_follows isPlain cursor).length
      unfold stringAfter at h
      obtain ⟨plain, start, htake, h⟩ := bind_eq_ok.mp h
      cases htake
      obtain ⟨c?, _, hpeek, hcase⟩ := bind_eq_ok.mp h
      obtain ⟨rfl, hhead⟩ := of_peek? hpeek
      split at hcase
      · exact absurd hcase failHere_ne_ok
      · obtain ⟨_, _, hskip, hpure⟩ := bind_eq_ok.mp hcase
        obtain ⟨-, rfl⟩ := pure_eq_ok.mp hpure
        rw [skipStringAfter, run_bind _ (takeWhile_eq isPlain cursor), run_bind _ hpeek]
        exact hskip
      · obtain ⟨rest, hrest⟩ := List.head?_eq_some_iff.mp hhead
        rw [run_bind _ (skipChar_eq hrest)] at hcase
        obtain ⟨meant, stop, hescape, hmore⟩ := bind_eq_ok.mp hcase
        have hrestLength : rest.length < bound := by
          rw [hrest, List.length_cons] at hdrop
          omega
        rcases skipEscape_of_escape hescape with hone | ⟨middle, others, hfirst, hmiddle, hsecond⟩
        · rw [skipStringAfter_escape hrest hone]
          have hstop : stop.rest.length ≤ rest.length := (Advances.escape hescape).length
          exact ih hmore (by omega)
        · rw [skipStringAfter_escape hrest hfirst]
          have hmiddleLength : middle.rest.length ≤ rest.length :=
            (Advances.skipEscape hfirst).length
          have hstop : stop.rest.length ≤ others.length := (Advances.skipEscape hsecond).length
          rw [hmiddle, List.length_cons] at hmiddleLength
          obtain ⟨bound, rfl⟩ := Nat.exists_eq_succ_of_ne_zero (Nat.ne_zero_of_lt hrestLength)
          -- The second escape of a pair follows the first one at once, with no plain characters.
          have hsame : middle.dropWhile isPlain = middle :=
            dropWhile_eq_self (by simp [hmiddle, isPlain])
          rw [← hsame] at hmiddle hsecond
          rw [skipStringAfter_escape hmiddle hsecond]
          exact ih hmore (by omega)
      · exact absurd hcase failNext_ne_ok

theorem skipString_of_stringBody {text : String} (hfits : cursor.Fits)
    (h : stringBody cursor = .ok text next) : skipString cursor = .ok () next := by
  obtain ⟨fuel, _, hbound, hbody⟩ := bind_eq_ok.mp h
  cases hbound
  exact skipStringAfter_of_stringAfter hbody (Nat.lt_succ_of_le hfits)

/-- What passing over a value takes first, where the value has no brackets. -/
theorem skipScalar_of_valueAt {depth : Nat} {json : Json} (hfits : cursor.Fits)
    (hlist : ∀ items, json ≠ .array items) (hobject : ∀ members, json ≠ .object members)
    (h : ValueAt depth (cursor.dropWhile isSpace) json next) :
    skipScalar cursor = .ok none next := by
  have hstart : (cursor.dropWhile isSpace).Fits := hfits.of_follows (dropWhile_follows _ _)
  have hpeek {c : Char} {rest : List Char} (hrest : (cursor.dropWhile isSpace).rest = c :: rest) :
      peekToken? cursor = .ok (some c) (cursor.dropWhile isSpace) := by
    rw [peekToken?_eq, hrest]
    rfl
  unfold skipScalar
  cases h with
  | null hrest hword =>
      rw [run_bind _ (hpeek hrest)]
      have hscalar : scalar 'n' (cursor.dropWhile isSpace) = .ok .null next :=
        (run_bind _ (skipChar_eq hrest)).trans (run_bind _ hword)
      exact run_bind _ hscalar
  | yes hrest hword =>
      rw [run_bind _ (hpeek hrest)]
      have hscalar : scalar 't' (cursor.dropWhile isSpace) = .ok (.boolean true) next :=
        (run_bind _ (skipChar_eq hrest)).trans (run_bind _ hword)
      exact run_bind _ hscalar
  | no hrest hword =>
      rw [run_bind _ (hpeek hrest)]
      have hscalar : scalar 'f' (cursor.dropWhile isSpace) = .ok (.boolean false) next :=
        (run_bind _ (skipChar_eq hrest)).trans (run_bind _ hword)
      exact run_bind _ hscalar
  | text hrest hbody =>
      rw [run_bind _ (hpeek hrest)]
      have htail := hstart.of_follows (Advances.skipChar (skipChar_eq hrest))
      exact (run_bind _ (skipChar_eq hrest)).trans
        (run_bind _ (skipString_of_stringBody htail hbody))
  | number hrest hsign _ hscalar =>
      rw [run_bind _ (hpeek hrest)]
      rcases hsign with rfl | hdigit
      · have hskip := skipChar_eq hrest
        have htail := hstart.of_follows (Advances.skipChar hskip)
        have hnumber := (run_bind _ hskip).symm.trans hscalar
        exact (run_bind _ hskip).trans (run_bind _ (number_takes htail hnumber).1)
      · rw [scalar_of_digit hdigit] at hscalar
        have hskip := (number_takes hstart hscalar).1
        generalize hc : some _ = c?
        split
        · cases hc
        · exact absurd hdigit (by cases hc; decide)
        · exact absurd hdigit (by cases hc; decide)
        · exact absurd hdigit (by cases hc; decide)
        · exact absurd hdigit (by cases hc; decide)
        · cases hc
          rw [if_pos hdigit]
          exact run_bind _ hskip
  | list => exact absurd rfl (hlist _)
  | object => exact absurd rfl (hobject _)

theorem skipScalar_list (h : cursor.Takes '[' next) :
    skipScalar cursor = .ok (some .list) next :=
  (run_bind _ h.peekToken?).trans (run_bind _ h.skipChar)

theorem skipScalar_object (h : cursor.Takes '\x7b' next) :
    skipScalar cursor = .ok (some .object) next :=
  (run_bind _ h.peekToken?).trans (run_bind _ h.skipChar)

/-! ## Brackets -/

/-- The character that ends what a bracket has opened. -/
def Bracket.last : Bracket → Char
  | list => ']'
  | object => '\x7d'

variable {bracket : Bracket} {opened : List Bracket}

theorem closeBrackets_close {fuel : Nat} {afterValue : Bool}
    (h : cursor.Takes bracket.last next) :
    closeBrackets (fuel + 1) afterValue (bracket :: opened) cursor =
      closeBrackets fuel true opened next := by
  cases bracket with
  | list => exact (run_bind _ h.peekToken?).trans (run_bind _ h.skipChar)
  | object => exact (run_bind _ h.peekToken?).trans (run_bind _ h.skipChar)

theorem closeBrackets_comma {fuel : Nat} (h : cursor.Takes ',' next) :
    closeBrackets (fuel + 1) true (bracket :: opened) cursor = .ok (bracket :: opened) next := by
  cases bracket with
  | list => exact (run_bind _ h.peekToken?).trans (run_bind _ h.skipChar)
  | object => exact (run_bind _ h.peekToken?).trans (run_bind _ h.skipChar)

/-- A bracket that has been opened and does not end at once stays open. -/
theorem closeBrackets_opened {fuel : Nat} {c : Char} (hlast : c ≠ bracket.last)
    (hhead : (cursor.dropWhile isSpace).rest.head? = some c) :
    closeBrackets (fuel + 1) false (bracket :: opened) cursor =
      .ok (bracket :: opened) (cursor.dropWhile isSpace) := by
  have hpeek : peekToken? cursor = .ok (some c) (cursor.dropWhile isSpace) := by
    rw [peekToken?_eq, hhead]
  unfold closeBrackets
  rw [run_bind _ hpeek]
  simp only [Bool.not_false, if_true]
  generalize hc : some c = c?
  split
  · cases hc
  · cases hc
  · exact absurd (Option.some.inj hc) hlast
  · exact absurd (Option.some.inj hc) hlast
  · rfl

/-- Closing brackets takes a character each time, so that any bound above their number will do. -/
theorem closeBrackets_bound {fuel other : Nat} {afterValue : Bool}
    (hfuel : cursor.rest.length < fuel) (hother : cursor.rest.length < other) :
    closeBrackets fuel afterValue opened cursor = closeBrackets other afterValue opened cursor := by
  induction fuel generalizing other afterValue opened cursor with
  | zero => exact absurd hfuel (Nat.not_lt_zero _)
  | succ fuel ih =>
      obtain ⟨other, rfl⟩ := Nat.exists_eq_succ_of_ne_zero (Nat.ne_zero_of_lt hother)
      cases opened with
      | nil => rfl
      | cons bracket outer =>
          have hclose {c : Char} (hhead : (cursor.dropWhile isSpace).rest.head? = some c) :
              (skipChar >>= fun _ => closeBrackets fuel true outer) (cursor.dropWhile isSpace) =
                (skipChar >>= fun _ => closeBrackets other true outer)
                  (cursor.dropWhile isSpace) := by
            obtain ⟨rest, hrest⟩ := List.head?_eq_some_iff.mp hhead
            have hlength : rest.length < cursor.rest.length :=
              (Cursor.Takes.follows ⟨rest, hrest, rfl⟩).2
            rw [run_bind _ (skipChar_eq hrest), run_bind _ (skipChar_eq hrest)]
            exact ih (Nat.lt_of_lt_of_le hlength (Nat.le_of_lt_succ hfuel))
              (Nat.lt_of_lt_of_le hlength (Nat.le_of_lt_succ hother))
          unfold closeBrackets
          rw [run_bind _ (peekToken?_eq cursor), run_bind _ (peekToken?_eq cursor)]
          generalize hhead : (cursor.dropWhile isSpace).rest.head? = c? at hclose
          split
          · rfl
          · rfl
          · exact hclose rfl
          · exact hclose rfl
          · rfl

/-- What is left to do when brackets have been closed. -/
def proceed (fuel : Nat) : List Bracket → Reader Unit
  | [] => pure ()
  | bracket :: outer => do
    if bracket = .object then skipKey
    skipValues fuel (bracket :: outer)

/-- What is left to do after a value or after an opened bracket. -/
def goOn (fuel : Nat) (afterValue : Bool) (opened : List Bracket) : Reader Unit := do
  proceed fuel (← closeBrackets (← bound) afterValue opened)

theorem goOn_eq (fuel : Nat) (afterValue : Bool) (opened : List Bracket) (cursor : Cursor) :
    goOn fuel afterValue opened cursor =
      (closeBrackets (cursor.size + 1) afterValue opened >>= proceed fuel) cursor := rfl

theorem skipValues_succ (fuel : Nat) (opened : List Bracket) :
    skipValues (fuel + 1) opened = (do
      let next ← skipScalar
      goOn fuel next.isNone (next.toList ++ opened)) := by
  unfold skipValues goOn
  refine bind_congr fun next => bind_congr fun bound => bind_congr fun opened => ?_
  cases opened with
  | nil => rfl
  | cons bracket outer => rfl

/-! ## Values -/

/-- Passing over what follows gives the same result, whatever bound there is for it. -/
def Skips (opened : List Bracket) (cursor : Cursor) (result : EStateM.Result Fault Cursor Unit) :
    Prop :=
  ∀ ⦃fuel⦄, cursor.rest.length < fuel → skipValues fuel opened cursor = result

/-- Going on after a value or an opened bracket gives the same result, whatever bound there is. -/
def GoesOn (afterValue : Bool) (opened : List Bracket) (cursor : Cursor)
    (result : EStateM.Result Fault Cursor Unit) : Prop :=
  ∀ ⦃fuel⦄, cursor.rest.length < fuel → goOn fuel afterValue opened cursor = result

variable {depth : Nat} {afterValue : Bool} {result : EStateM.Result Fault Cursor Unit}

/-- At the last bracket of a list or an object, passing over goes on behind it. -/
theorem GoesOn.close (hfits : cursor.Fits) (h : cursor.Takes bracket.last next)
    (hnext : GoesOn true opened next result) :
    GoesOn afterValue (bracket :: opened) cursor result := by
  intro fuel hfuel
  obtain ⟨hfollows, hlength⟩ := h.follows
  have hclose : closeBrackets (cursor.size + 1) afterValue (bracket :: opened) cursor =
      closeBrackets (next.size + 1) true opened next := by
    rw [closeBrackets_close h]
    unfold Cursor.Fits at hfits
    have hsize := hfollows.size
    exact closeBrackets_bound (by omega) (by omega)
  rw [← hnext (Nat.lt_of_le_of_lt hfollows.length hfuel), goOn_eq, goOn_eq]
  exact run_bind_congr _ hclose

theorem GoesOn.item (h : closeBrackets (cursor.size + 1) afterValue (.list :: opened) cursor =
      .ok (.list :: opened) middle) (hmiddle : middle.rest.length ≤ cursor.rest.length)
    (hnext : Skips (.list :: opened) middle result) :
    GoesOn afterValue (.list :: opened) cursor result := by
  intro fuel hfuel
  rw [goOn_eq, run_bind _ h]
  exact hnext (Nat.lt_of_le_of_lt hmiddle hfuel)

theorem GoesOn.member (h : closeBrackets (cursor.size + 1) afterValue (.object :: opened) cursor =
      .ok (.object :: opened) middle) (hkey : skipKey middle = .ok () next)
    (hnextLength : next.rest.length ≤ cursor.rest.length)
    (hnext : Skips (.object :: opened) next result) :
    GoesOn afterValue (.object :: opened) cursor result := by
  intro fuel hfuel
  rw [goOn_eq, run_bind _ h]
  exact (run_bind _ hkey).trans (hnext (Nat.lt_of_le_of_lt hnextLength hfuel))

theorem skipKey_eq {name sign : Cursor} {key : String} (hfits : cursor.Fits)
    (hquote : cursor.Takes '"' name) (hkey : stringBody name = .ok key sign)
    (hcolon : colon sign = .ok () next) : skipKey cursor = .ok () next := by
  have hname := skipString_of_stringBody (hfits.of_follows hquote.follows.1) hkey
  unfold skipKey
  rw [run_bind _ hquote.peekToken?]
  exact (run_bind _ hquote.skipChar).trans ((run_bind _ hname).trans hcolon)

/-- What is read as a value at some depth is passed over. -/
def SkippedAt (depth : Nat) : Prop :=
  ∀ ⦃cursor json next opened result⦄, cursor.Fits → value depth cursor = .ok json next →
    GoesOn true opened next result → Skips opened cursor result

theorem SkippedAt.items (hdepth : SkippedAt depth) {first : Bool} {items : List Json}
    {last : Cursor} (hfits : cursor.Fits) (h : ItemsAt depth first cursor items last)
    (hclose : closeList last = .ok () next) (hnext : GoesOn true opened next result) :
    GoesOn (!first) (.list :: opened) cursor result := by
  -- From the last item to the first: what passing over an item goes on with is all that follows it.
  induction h with
  | done h =>
      obtain rfl := of_hasItem h
      exact .close hfits (Cursor.Takes.dropWhile_iff.mp (takes_of_closeList hclose)) hnext
  | @more first cursor start stop last json items hitem hvalue hrest ih =>
      have hstart := Advances.hasItem _ hitem
      have hstop := (Advances.value depth hvalue).trans hstart
      have hafter := ih (hfits.of_follows hstop) hclose
      obtain ⟨c, hc, hhead, hplace⟩ := of_hasItem hitem
      cases first with
      | true =>
          obtain rfl := hplace
          exact .item (closeBrackets_opened hc hhead) hstart.length
            (hdepth (hfits.of_follows hstart) hvalue hafter)
      | false =>
          obtain ⟨middle, hcomma, rfl⟩ := hplace
          have hmiddle := hcomma.follows.1
          exact .item (closeBrackets_comma hcomma) hmiddle.length
            (hdepth (hfits.of_follows hmiddle) (value_dropWhile.mp hvalue) hafter)

theorem SkippedAt.members (hdepth : SkippedAt depth) {first : Bool} {members : Members}
    {last : Cursor} (hfits : cursor.Fits) (h : MembersAt depth first cursor members last)
    (hclose : closeObject last = .ok () next) (hnext : GoesOn true opened next result) :
    GoesOn (!first) (.object :: opened) cursor result := by
  induction h with
  | done h =>
      obtain rfl := of_hasMember h
      exact .close hfits (Cursor.Takes.dropWhile_iff.mp (takes_of_closeObject hclose)) hnext
  | @more first cursor _ _ _ _ _ _ _ _ hmember hkey hcolon hvalue hrest ih =>
      have hstart := (Advances.colon hcolon).trans
        ((Advances.stringBody hkey).trans (Advances.hasMember _ hmember))
      have hafter := ih (hfits.of_follows ((Advances.value depth hvalue).trans hstart)) hclose
      have hskips := hdepth (hfits.of_follows hstart) hvalue hafter
      have hplace := of_hasMember hmember
      cases first with
      | true =>
          have hspace := dropWhile_follows isSpace cursor
          have hskipKey := skipKey_eq (hfits.of_follows hspace)
            (Cursor.Takes.dropWhile_iff.mpr hplace) hkey hcolon
          have hquote : '"' ≠ Bracket.object.last := by decide
          exact .member (closeBrackets_opened hquote hplace.head) hskipKey hstart.length hskips
      | false =>
          obtain ⟨middle, hcomma, hquote⟩ := hplace
          have hskipKey := skipKey_eq (hfits.of_follows hcomma.follows.1) hquote hkey hcolon
          exact .member (closeBrackets_comma hcomma) hskipKey hstart.length hskips

theorem Skips.of_scalar {next : Cursor} (hnextLength : next.rest.length < cursor.rest.length)
    (h : skipScalar cursor = .ok none next) (hnext : GoesOn true opened next result) :
    Skips opened cursor result := by
  intro fuel hfuel
  obtain ⟨fuel, rfl⟩ := Nat.exists_eq_succ_of_ne_zero (Nat.ne_zero_of_lt hfuel)
  rw [skipValues_succ, run_bind _ h]
  exact hnext (by omega)

theorem Skips.of_bracket {next : Cursor} (hnextLength : next.rest.length < cursor.rest.length)
    (h : skipScalar cursor = .ok (some bracket) next)
    (hnext : GoesOn false (bracket :: opened) next result) : Skips opened cursor result := by
  intro fuel hfuel
  obtain ⟨fuel, rfl⟩ := Nat.exists_eq_succ_of_ne_zero (Nat.ne_zero_of_lt hfuel)
  rw [skipValues_succ, run_bind _ h]
  exact hnext (by omega)

/-- Whatever is read as a value is passed over, by induction on the depth that is left for its
brackets. -/
theorem skippedAt (depth : Nat) : SkippedAt depth := by
  induction depth with
  | zero => exact fun _ _ _ _ _ _ h => absurd h failNext_ne_ok
  | succ depth ih =>
      intro cursor json next opened result hfits h hnext
      have hlength := (value_takes h).2
      have hwritten := valueAt_of_ok hfits h
      have hplain (hlist : ∀ items, json ≠ .array items)
          (hobject : ∀ members, json ≠ .object members) : Skips opened cursor result :=
        .of_scalar hlength (skipScalar_of_valueAt hfits hlist hobject hwritten) hnext
      cases hwritten with
      | null | yes | no | text => exact hplain (fun _ => nofun) (fun _ => nofun)
      | number _ _ hnumber =>
          cases hnumber with
          | integer | real => exact hplain (fun _ => nofun) (fun _ => nofun)
      | list hrest _ hitems hclose =>
          have htakes : cursor.Takes '[' _ := ⟨_, hrest, rfl⟩
          obtain ⟨hfollows, hlt⟩ := htakes.follows
          exact .of_bracket hlt (skipScalar_list htakes)
            (ih.items (hfits.of_follows hfollows) hitems hclose hnext)
      | object hrest _ hmembers hclose =>
          have htakes : cursor.Takes '\x7b' _ := ⟨_, hrest, rfl⟩
          obtain ⟨hfollows, hlt⟩ := htakes.follows
          exact .of_bracket hlt (skipScalar_object htakes)
            (ih.members (hfits.of_follows hfollows) hmembers hclose hnext)

/-- What can be read as a value can be passed over, and both end in the same place. -/
theorem skipValue_of_value {json : Json} (hfits : cursor.Fits)
    (h : value depth cursor = .ok json next) : skipValue cursor = .ok () next := by
  have hnext : GoesOn true [] next (.ok () next) := fun _ _ => rfl
  exact skippedAt depth hfits h hnext (Nat.lt_succ_of_le hfits)

end ToolDiscovery.Json
