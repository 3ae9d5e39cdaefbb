import Mathlib.Data.List.Basic
import ToolDiscovery.Json.Reader

/-!
# Readers take a text from left to right

A reader is taken apart by `bind_eq_ok` and run step by step by `run_bind`. No reader ever goes back
(`Advances`), and a value takes at least one character (`value_takes`), so that a repetition that
reads a value each time ends before its bound.
-/

namespace ToolDiscovery.Json

variable {α β : Type} {cursor middle next : Cursor}

/-! ## Runs of readers -/

/-- A reader followed by another one succeeds if both do. -/
theorem bind_eq_ok {first : Reader α} {rest : α → Reader β} {result : β} :
    (first >>= rest) cursor = .ok result next ↔
      ∃ value middle, first cursor = .ok value middle ∧ rest value middle = .ok result next := by
  show EStateM.bind first rest cursor = _ ↔ _
  unfold EStateM.bind
  cases first cursor with
  | ok value middle => simp
  | error fault middle => simp

/-- After a success the rest is run from where it ended. -/
theorem run_bind {first : Reader α} (rest : α → Reader β) {value : α}
    (h : first cursor = .ok value middle) : (first >>= rest) cursor = rest value middle := by
  show EStateM.bind first rest cursor = _
  unfold EStateM.bind
  rw [h]

/-- Runs of two readers that come out alike are continued alike. -/
theorem run_bind_congr {first other : Reader α} (rest : α → Reader β)
    (h : first cursor = other middle) : (first >>= rest) cursor = (other >>= rest) middle := by
  show EStateM.bind first rest cursor = EStateM.bind other rest middle
  unfold EStateM.bind
  rw [h]

theorem pure_eq_ok {value result : α} :
    (pure value : Reader α) cursor = .ok result next ↔ value = result ∧ cursor = next := by
  show EStateM.Result.ok value cursor = _ ↔ _
  rw [EStateM.Result.ok.injEq]

theorem failHere_ne_ok {fault : SyntaxFault} {result : α} :
    failHere fault cursor ≠ .ok result next := nofun

theorem failNext_ne_ok {fault : SyntaxFault} {result : α} :
    failNext fault cursor ≠ .ok result next := nofun

theorem failWith_ne_ok {cause : Cause} {result : α} :
    failWith cause cursor ≠ .ok result next := nofun

theorem failAt_ne_ok {cause : Cause} {result : α} :
    failAt cause cursor ≠ .ok result next := nofun

/-! ## Places in a text -/

/-- A cursor stands in the same text as another one and not before it. -/
structure Cursor.Follows (next cursor : Cursor) : Prop where
  size : next.size = cursor.size
  length : next.rest.length ≤ cursor.rest.length

theorem Cursor.Follows.refl (cursor : Cursor) : cursor.Follows cursor := ⟨rfl, Nat.le_refl _⟩

theorem Cursor.Follows.trans (h : next.Follows middle) (h' : middle.Follows cursor) :
    next.Follows cursor :=
  ⟨h.size.trans h'.size, Nat.le_trans h.length h'.length⟩

/-- What follows in the text is no longer than the whole text, which bounds the repetitions. -/
def Cursor.Fits (cursor : Cursor) : Prop := cursor.rest.length ≤ cursor.size

theorem Cursor.Fits.of_follows (h : cursor.Fits) (hnext : next.Follows cursor) : next.Fits := by
  unfold Fits at h ⊢
  rw [hnext.size]
  exact Nat.le_trans hnext.length h

theorem Cursor.fits_start (text : String) : (Cursor.start text).Fits := Nat.le_refl _

/-- The cursor after the next character. -/
def Cursor.tail (cursor : Cursor) (c : Char) (rest : List Char) : Cursor :=
  { cursor with rest, position := cursor.position.after c }

theorem skipChar_eq {c : Char} {rest : List Char} (h : cursor.rest = c :: rest) :
    skipChar cursor = .ok () (cursor.tail c rest) := by
  unfold skipChar
  rw [h]
  rfl

theorem dropWhile_follows (p : Char → Bool) (cursor : Cursor) :
    (cursor.dropWhile p).Follows cursor :=
  ⟨rfl, (List.dropWhile_suffix p).length_le⟩

theorem of_peek? {c? : Option Char} (h : peek? cursor = .ok c? next) :
    next = cursor ∧ cursor.rest.head? = c? := by
  cases h
  exact ⟨rfl, rfl⟩

theorem peek?_eq {c? : Option Char} (h : cursor.rest.head? = c?) :
    peek? cursor = .ok c? cursor := by
  rw [← h]
  rfl

/-- Looking at the next token stops at the first character that is no white space. -/
theorem of_peekToken? {c? : Option Char} (h : peekToken? cursor = .ok c? next) :
    next = cursor.dropWhile isSpace ∧ next.rest.head? = c? := by
  cases h
  exact ⟨rfl, rfl⟩

theorem peekToken?_eq (cursor : Cursor) :
    peekToken? cursor = .ok (cursor.dropWhile isSpace).rest.head? (cursor.dropWhile isSpace) := rfl

theorem takeWhile_eq (p : Char → Bool) (cursor : Cursor) :
    takeWhile p cursor = .ok (cursor.rest.takeWhile p) (cursor.dropWhile p) := rfl

theorem dropWhile_eq_self {p : Char → Bool} (h : ∀ c ∈ cursor.rest.head?, ¬p c) :
    cursor.dropWhile p = cursor := by
  unfold Cursor.dropWhile
  cases hrest : cursor.rest with
  | nil =>
      show ({ cursor with rest := [] } : Cursor) = cursor
      rw [← hrest]
  | cons c rest =>
      have hc : ¬p c := h c (by rw [hrest]; rfl)
      rw [List.takeWhile_cons_of_neg hc, List.dropWhile_cons_of_neg hc, ← hrest]
      rfl

/-- Nothing is left to take where it was taken already. -/
theorem dropWhile_dropWhile (p : Char → Bool) (cursor : Cursor) :
    (cursor.dropWhile p).dropWhile p = cursor.dropWhile p := by
  apply dropWhile_eq_self
  intro c hc
  have hhead := List.head?_dropWhile_not p cursor.rest
  rw [show (cursor.rest.dropWhile p).head? = some c from hc] at hhead
  simpa using hhead

theorem dropWhile_of_cons {p : Char → Bool} {c : Char} {rest : List Char}
    (hrest : cursor.rest = c :: rest) (hc : p c) :
    cursor.dropWhile p = (cursor.tail c rest).dropWhile p := by
  unfold Cursor.dropWhile Cursor.tail
  rw [hrest, List.takeWhile_cons_of_pos hc, List.dropWhile_cons_of_pos hc]
  rfl

/-- After white space the next character is `c`, and a cursor stands behind it. -/
def Cursor.Takes (c : Char) (cursor next : Cursor) : Prop :=
  ∃ rest, (cursor.dropWhile isSpace).rest = c :: rest ∧
    next = (cursor.dropWhile isSpace).tail c rest

namespace Cursor.Takes

variable {c : Char}

theorem head (h : cursor.Takes c next) : (cursor.dropWhile isSpace).rest.head? = some c := by
  obtain ⟨rest, hrest, -⟩ := h
  rw [hrest, List.head?_cons]

theorem peekToken? (h : cursor.Takes c next) :
    Json.peekToken? cursor = .ok (some c) (cursor.dropWhile isSpace) := by
  rw [peekToken?_eq, h.head]

theorem skipChar (h : cursor.Takes c next) :
    Json.skipChar (cursor.dropWhile isSpace) = .ok () next := by
  obtain ⟨rest, hrest, rfl⟩ := h
  exact skipChar_eq hrest

theorem follows (h : cursor.Takes c next) :
    next.Follows cursor ∧ next.rest.length < cursor.rest.length := by
  obtain ⟨rest, hrest, rfl⟩ := h
  have hlength := (dropWhile_follows isSpace cursor).length
  rw [hrest, List.length_cons] at hlength
  exact ⟨⟨rfl, Nat.le_of_succ_le hlength⟩, hlength⟩

theorem dropWhile_iff : (cursor.dropWhile isSpace).Takes c next ↔ cursor.Takes c next := by
  unfold Cursor.Takes
  rw [dropWhile_dropWhile]

theorem unique {d : Char} {other : Cursor} (h : cursor.Takes c next)
    (hother : cursor.Takes d other) : c = d ∧ next = other := by
  obtain ⟨rest, hrest, rfl⟩ := h
  obtain ⟨others, hothers, rfl⟩ := hother
  rw [hrest] at hothers
  cases hothers
  exact ⟨rfl, rfl⟩

/-- A reader that was seen to stop at a character and to take it. -/
theorem of_skipChar {c? : Option Char} {start : Cursor}
    (hpeek : Json.peekToken? cursor = .ok c? start) (hc : c? = some c)
    (hskip : Json.skipChar start = .ok () next) : cursor.Takes c next := by
  obtain ⟨rfl, hhead⟩ := of_peekToken? hpeek
  obtain ⟨rest, hrest⟩ := List.head?_eq_some_iff.mp (hhead.trans hc)
  rw [skipChar_eq hrest] at hskip
  cases hskip
  exact ⟨rest, hrest, rfl⟩

end Cursor.Takes

theorem thenClose_eq_ok {body : Reader α} {close : Reader Unit} {result : α} :
    thenClose body close cursor = .ok result next ↔
      ∃ middle, body cursor = .ok result middle ∧ close middle = .ok () next := by
  unfold thenClose
  cases body cursor with
  | error fault middle =>
      cases hclose : close middle with
      | error other last => simp [hclose]
      | ok done last => simp [hclose]
  | ok value middle =>
      cases hclose : close middle with
      | error other last => simp [hclose]
      | ok done last => simp [hclose]

/-- Reads the digits of an exponent, whose sign has been read. -/
def exponentAfterSign (negative : Bool) (s : Significand) (sign : Option Char) : Reader Json := do
  match ← peek? with
  | none => failHere .endInValue
  | some c =>
    if isDigit c then exponentDigits negative s (sign = some '-') 0 (← bound)
    else failNext .invalidNumber

theorem exponentPart_eq (negative : Bool) (s : Significand) :
    exponentPart negative s = (do
      skipChar
      let sign ← peek?
      if sign = some '+' ∨ sign = some '-' then
        skipChar
        exponentAfterSign negative s sign
      else exponentAfterSign negative s sign) := rfl

/-- A reader never goes back. -/
def Advances (reader : Reader α) : Prop :=
  ∀ ⦃cursor result next⦄, reader cursor = .ok result next → next.Follows cursor

namespace Advances

theorem pure (result : α) : Advances (Pure.pure result : Reader α) := by
  rintro cursor _ _ ⟨⟩
  exact .refl cursor

theorem failHere (fault : SyntaxFault) : Advances (failHere fault : Reader α) :=
  fun _ _ _ h => absurd h failHere_ne_ok

theorem failNext (fault : SyntaxFault) : Advances (failNext fault : Reader α) :=
  fun _ _ _ h => absurd h failNext_ne_ok

theorem bind {first : Reader α} {rest : α → Reader β} (hfirst : Advances first)
    (hrest : ∀ value, Advances (rest value)) : Advances (first >>= rest) := by
  intro cursor result next h
  obtain ⟨value, middle, hfirstRun, hrestRun⟩ := bind_eq_ok.mp h
  exact (hrest value hrestRun).trans (hfirst hfirstRun)

theorem ite {condition : Prop} [Decidable condition] {yes no : Reader α} (hyes : Advances yes)
    (hno : Advances no) : Advances (if condition then yes else no) := by
  by_cases h : condition
  · rwa [if_pos h]
  · rwa [if_neg h]

theorem peek? : Advances peek? := by
  rintro cursor _ _ ⟨⟩
  exact .refl cursor

theorem bound : Advances bound := by
  rintro cursor _ _ ⟨⟩
  exact .refl cursor

theorem skipChar : Advances skipChar := by
  intro cursor result next h
  cases hrest : cursor.rest with
  | nil =>
      have hsame : Json.skipChar cursor = .ok () cursor := by
        unfold Json.skipChar
        rw [hrest]
      rw [hsame] at h
      cases h
      exact .refl cursor
  | cons c rest =>
      rw [skipChar_eq hrest] at h
      cases h
      exact ⟨rfl, by rw [hrest]; exact Nat.le_succ _⟩

theorem takeWhile (p : Char → Bool) : Advances (takeWhile p) := by
  rintro cursor _ _ ⟨⟩
  exact dropWhile_follows p cursor

theorem peekToken? : Advances peekToken? := by
  rintro cursor _ _ ⟨⟩
  exact dropWhile_follows isSpace cursor

theorem expectIdent (word : List Char) : Advances (expectIdent word) := by
  induction word with
  | nil => exact pure ()
  | cons expected more ih =>
      unfold Json.expectIdent
      refine bind peek? fun c? => ?_
      cases c? with
      | none => exact failHere _
      | some c => exact ite (bind skipChar fun _ => ih) (failNext _)

theorem hexEscape : Advances hexEscape := by
  intro cursor result next h
  unfold Json.hexEscape at h
  simp only at h
  split at h
  · cases h
  · split at h
    · cases h
      exact ⟨rfl, (List.drop_suffix 4 cursor.rest).length_le⟩
    · cases h

theorem expectInPair (expected : Char) : Advances (expectInPair expected) := by
  unfold Json.expectInPair
  refine bind peek? fun c? => ?_
  cases c? with
  | none => exact failHere _
  | some c => exact ite skipChar (failNext _)

theorem unicodeEscape : Advances unicodeEscape := by
  unfold Json.unicodeEscape
  refine bind hexEscape fun first => ite (failHere _) (ite ?_ (pure _))
  refine bind (expectInPair _) fun _ => bind (expectInPair _) fun _ => ?_
  exact bind hexEscape fun second => ite (pure _) (failHere _)

theorem escape : Advances escape := by
  unfold Json.escape
  refine bind peek? fun c? => ?_
  split
  · exact failHere _
  · exact bind skipChar fun _ => unicodeEscape
  · split
    · exact bind skipChar fun _ => pure _
    · exact failNext _

theorem stringAfter (fuel : Nat) (read : List Char) : Advances (stringAfter fuel read) := by
  induction fuel generalizing read with
  | zero => exact failHere _
  | succ fuel ih =>
      unfold Json.stringAfter
      refine bind (takeWhile _) fun plain => bind peek? fun c? => ?_
      split
      · exact failHere _
      · exact bind skipChar fun _ => pure _
      · exact bind skipChar fun _ => bind escape fun meant => ih _
      · exact failNext _

theorem stringBody : Advances stringBody := bind bound fun _ => stringAfter _ _

theorem realOf (negative : Bool) (s : Significand) : Advances (realOf negative s) := by
  unfold Json.realOf
  split
  · exact failHere _
  · exact pure _

theorem exponentDigits (negative : Bool) (s : Significand) (minus : Bool) (value fuel : Nat) :
    Advances (exponentDigits negative s minus value fuel) := by
  induction fuel generalizing value with
  | zero => exact realOf _ _
  | succ fuel ih =>
      unfold Json.exponentDigits
      refine bind peek? fun c? => ?_
      cases c? with
      | none => exact realOf _ _
      | some c =>
          refine ite (bind skipChar fun _ => ite (ite (failHere _) ?_) (ih _)) (realOf _ _)
          exact bind (takeWhile _) fun _ => pure _

theorem exponentAfterSign (negative : Bool) (s : Significand) (sign : Option Char) :
    Advances (exponentAfterSign negative s sign) := by
  refine bind peek? fun c? => ?_
  cases c? with
  | none => exact failHere _
  | some c => exact ite (bind bound fun _ => exponentDigits _ _ _ _ _) (failNext _)

theorem exponentPart (negative : Bool) (s : Significand) : Advances (exponentPart negative s) := by
  rw [exponentPart_eq]
  exact bind skipChar fun _ => bind peek? fun sign =>
    ite (bind skipChar fun _ => exponentAfterSign _ _ sign) (exponentAfterSign _ _ sign)

theorem exponentOrEnd (negative : Bool) (s : Significand) :
    Advances (exponentOrEnd negative s) := by
  unfold Json.exponentOrEnd
  refine bind peek? fun c? => ?_
  split
  · exact exponentPart _ _
  · exact exponentPart _ _
  · exact realOf _ _

theorem fractionPart (negative : Bool) (s : Significand) : Advances (fractionPart negative s) := by
  unfold Json.fractionPart
  refine bind skipChar fun _ => bind (takeWhile _) fun digits => ite ?_ (exponentOrEnd _ _)
  refine bind peek? fun c? => ?_
  cases c? with
  | none => exact failHere _
  | some c => exact failNext _

theorem afterZero : Advances (do
    match ← Json.peek? with
    | some c =>
      if isDigit c then Json.failNext .invalidNumber
      else Pure.pure (⟨0, 0, false⟩ : Significand)
    | none => Pure.pure ⟨0, 0, false⟩) := by
  refine bind peek? fun c? => ?_
  cases c? with
  | none => exact pure _
  | some c => exact ite (failNext _) (pure _)

theorem whole (first : Char) : Advances (number.whole first) := by
  unfold Json.number.whole
  exact ite (bind skipChar fun _ => afterZero) (bind (takeWhile _) fun _ => pure _)

theorem numberAfter (negative : Bool) (s : Significand) : Advances (do
    match ← Json.peek? with
    | some '.' => Json.fractionPart negative s
    | some 'e' | some 'E' => Json.exponentPart negative s
    | _ => if s.full then Json.realOf negative s else Pure.pure (wholeOf negative s.digits)) := by
  refine bind peek? fun c? => ?_
  split
  · exact fractionPart _ _
  · exact exponentPart _ _
  · exact exponentPart _ _
  · exact ite (realOf _ _) (pure _)

theorem number (negative : Bool) : Advances (number negative) := by
  unfold Json.number
  refine bind peek? fun first? => ?_
  cases first? with
  | none => exact failHere _
  | some first => exact ite (failNext _) (bind (whole first) fun s => numberAfter negative s)

theorem scalar (c : Char) : Advances (scalar c) := by
  unfold Json.scalar
  split
  · exact bind skipChar fun _ => bind (expectIdent _) fun _ => pure _
  · exact bind skipChar fun _ => bind (expectIdent _) fun _ => pure _
  · exact bind skipChar fun _ => bind (expectIdent _) fun _ => pure _
  · exact bind skipChar fun _ => bind stringBody fun _ => pure _
  · exact bind skipChar fun _ => number _
  · exact ite (number _) (failNext _)

/-! ## Punctuation and repetitions -/

theorem hasItem (first : Bool) : Advances (hasItem first) := by
  unfold Json.hasItem
  refine bind peekToken? fun c? => ?_
  split
  · exact failHere _
  · exact pure _
  · refine ite (pure _) (ite (bind skipChar fun _ => bind peekToken? fun c? => ?_) (failNext _))
    split
    · exact failHere _
    · exact failNext _
    · exact pure _

theorem key (c : Char) : Advances (hasMember.key c) :=
  ite (bind skipChar fun _ => pure _) (failNext _)

theorem hasMember (first : Bool) : Advances (hasMember first) := by
  unfold Json.hasMember
  refine bind peekToken? fun c? => ?_
  split
  · exact failHere _
  · exact pure _
  · refine ite (key _) (ite (bind skipChar fun _ => bind peekToken? fun c? => ?_) (failNext _))
    split
    · exact failHere _
    · exact failNext _
    · exact key _

theorem closeList : Advances closeList := by
  unfold Json.closeList
  refine bind peekToken? fun c? => ?_
  split
  · exact failHere _
  · exact skipChar
  · refine bind skipChar fun _ => bind peekToken? fun c? => ?_
    split
    · exact failNext _
    · exact failNext _
  · exact failNext _

theorem closeObject : Advances closeObject := by
  unfold Json.closeObject
  refine bind peekToken? fun c? => ?_
  split
  · exact failHere _
  · exact skipChar
  · exact failNext _
  · exact failNext _

theorem colon : Advances colon := by
  unfold Json.colon
  refine bind peekToken? fun c? => ?_
  split
  · exact failHere _
  · exact skipChar
  · exact failNext _

theorem foldItems {σ : Type} {step : σ → Reader σ} (hstep : ∀ state, Advances (step state))
    (fuel : Nat) (first : Bool) (state : σ) : Advances (foldItems step fuel first state) := by
  induction fuel generalizing first state with
  | zero => exact pure state
  | succ fuel ih =>
      unfold Json.foldItems
      refine bind (hasItem first) fun more => ite (bind (hstep state) fun state => ?_) (pure _)
      exact ih false state

theorem foldMembers {σ : Type} {step : σ → String → Reader σ}
    (hstep : ∀ state key, Advances (step state key)) (fuel : Nat) (first : Bool) (state : σ) :
    Advances (foldMembers step fuel first state) := by
  induction fuel generalizing first state with
  | zero => exact pure state
  | succ fuel ih =>
      unfold Json.foldMembers
      refine bind (hasMember first) fun more => ite (bind stringBody fun key => ?_) (pure _)
      exact bind (hstep state key) fun state => ih false state

theorem thenClose {body : Reader α} {close : Reader Unit} (hbody : Advances body)
    (hclose : Advances close) : Advances (thenClose body close) := by
  intro cursor result next h
  obtain ⟨middle, hbodyRun, hcloseRun⟩ := thenClose_eq_ok.mp h
  exact (hclose hcloseRun).trans (hbody hbodyRun)

end Advances

/-! ## Values take at least one character -/

theorem whole_consumes {c : Char} {rest : List Char} {s : Significand}
    (hrest : cursor.rest = c :: rest) (hdigit : isDigit c)
    (h : number.whole c cursor = .ok s next) : next.rest.length ≤ rest.length := by
  unfold number.whole at h
  by_cases hzero : c = '0'
  · rw [if_pos hzero, run_bind _ (skipChar_eq hrest)] at h
    exact (Advances.afterZero h).length
  · rw [if_neg hzero] at h
    cases h
    show (cursor.rest.dropWhile isDigit).length ≤ rest.length
    rw [hrest, List.dropWhile_cons_of_pos hdigit]
    exact (List.dropWhile_suffix isDigit).length_le

theorem number_consumes {c : Char} {rest : List Char} {negative : Bool} {json : Json}
    (hrest : cursor.rest = c :: rest) (h : number negative cursor = .ok json next) :
    next.rest.length ≤ rest.length := by
  have hhead : cursor.rest.head? = some c := by rw [hrest, List.head?_cons]
  unfold number at h
  rw [run_bind _ (peek?_eq hhead)] at h
  by_cases hdigit : isDigit c
  · simp only [hdigit, Bool.not_true, Bool.false_eq_true, if_false] at h
    obtain ⟨s, middle, hwhole, hafter⟩ := bind_eq_ok.mp h
    exact Nat.le_trans (Advances.numberAfter negative s hafter).length
      (whole_consumes hrest hdigit hwhole)
  · simp only [hdigit, Bool.not_false, if_true] at h
    exact absurd h failNext_ne_ok

theorem scalar_consumes {c : Char} {rest : List Char} {json : Json}
    (hrest : cursor.rest = c :: rest) (h : scalar c cursor = .ok json next) :
    next.rest.length ≤ rest.length := by
  have hskip {more : Unit → Reader Json} (hmore : ∀ u, Advances (more u))
      (h : (skipChar >>= more) cursor = .ok json next) : next.rest.length ≤ rest.length := by
    rw [run_bind _ (skipChar_eq hrest)] at h
    exact (hmore () h).length
  unfold scalar at h
  split at h
  · exact hskip (fun _ => .bind (.expectIdent _) fun _ => .pure _) h
  · exact hskip (fun _ => .bind (.expectIdent _) fun _ => .pure _) h
  · exact hskip (fun _ => .bind (.expectIdent _) fun _ => .pure _) h
  · exact hskip (fun _ => .bind .stringBody fun _ => .pure _) h
  · exact hskip (fun _ => .number _) h
  · split at h
    · exact number_consumes hrest h
    · exact absurd h failNext_ne_ok

theorem nested_eq_ok {depth : Nat} {body : Nat → Reader α} {result : α} {c : Char}
    {rest : List Char} (hrest : cursor.rest = c :: rest) :
    nested (depth + 1) body cursor = .ok result next ↔
      0 < depth ∧ body depth (cursor.tail c rest) = .ok result next := by
  cases depth with
  | zero => simp [nested, failNext]
  | succ depth =>
      show (skipChar >>= fun _ => body (depth + 1)) cursor = _ ↔ _
      rw [run_bind _ (skipChar_eq hrest)]
      exact (and_iff_right (Nat.succ_pos depth)).symm

/-- A value takes at least one character. -/
theorem value_takes {depth : Nat} {json : Json} (h : value depth cursor = .ok json next) :
    next.Follows cursor ∧ next.rest.length < cursor.rest.length := by
  induction depth generalizing cursor json next with
  | zero => exact absurd h failNext_ne_ok
  | succ depth ih =>
      have hvalue : Advances (value depth) := fun _ _ _ h => (ih h).1
      have hspace : (cursor.dropWhile isSpace).Follows cursor := dropWhile_follows isSpace cursor
      -- It is enough that something follows the first character of the value.
      have htakes {c : Char} {rest : List Char}
          (hrest : (cursor.dropWhile isSpace).rest = c :: rest)
          (hnext : next.size = cursor.size ∧ next.rest.length ≤ rest.length) :
          next.Follows cursor ∧ next.rest.length < cursor.rest.length := by
        have hlt := hspace.length
        rw [hrest, List.length_cons] at hlt
        exact ⟨⟨hnext.1, by omega⟩, by omega⟩
      unfold value at h
      obtain ⟨c?, start, hpeek, hcase⟩ := bind_eq_ok.mp h
      obtain ⟨rfl, hhead⟩ := of_peekToken? hpeek
      split at hcase
      · exact absurd hcase failHere_ne_ok
      · obtain ⟨rest, hrest⟩ := List.head?_eq_some_iff.mp hhead
        obtain ⟨items, last, hclose, hpure⟩ := bind_eq_ok.mp ((nested_eq_ok hrest).mp hcase).2
        cases hpure
        have hfollows := Advances.thenClose (.bind .bound fun _ => .bind (.foldItems
          (fun _ => .bind hvalue fun _ => .pure _) _ _ _) fun _ => .pure _) .closeList hclose
        exact htakes hrest ⟨hfollows.size, hfollows.length⟩
      · obtain ⟨rest, hrest⟩ := List.head?_eq_some_iff.mp hhead
        obtain ⟨members, last, hclose, hpure⟩ := bind_eq_ok.mp ((nested_eq_ok hrest).mp hcase).2
        cases hpure
        have hfollows := Advances.thenClose (.bind .bound fun _ => .foldMembers
          (fun _ _ => .bind .colon fun _ => .bind hvalue fun _ => .pure _) _ _ _) .closeObject
          hclose
        exact htakes hrest ⟨hfollows.size, hfollows.length⟩
      · rename_i c hlist hobject
        obtain ⟨rest, hrest⟩ := List.head?_eq_some_iff.mp hhead
        exact htakes hrest ⟨((Advances.scalar c hcase).trans hspace).size,
          scalar_consumes hrest hcase⟩

theorem Advances.value (depth : Nat) : Advances (value depth) := fun _ _ _ h => (value_takes h).1

/-- White space before a value does not matter. -/
theorem value_dropWhile {depth : Nat} {json : Json} :
    value depth (cursor.dropWhile isSpace) = .ok json next ↔
      value depth cursor = .ok json next := by
  cases depth with
  | zero => exact iff_of_false failNext_ne_ok failNext_ne_ok
  | succ depth =>
      have hpeek : peekToken? (cursor.dropWhile isSpace) = peekToken? cursor := by
        rw [peekToken?_eq, peekToken?_eq, dropWhile_dropWhile]
      unfold value
      rw [bind_eq_ok, bind_eq_ok, hpeek]

/-! ## Punctuation -/

theorem takes_of_closeList (h : closeList cursor = .ok () next) : cursor.Takes ']' next := by
  unfold closeList at h
  obtain ⟨c?, start, hpeek, hcase⟩ := bind_eq_ok.mp h
  split at hcase
  · exact absurd hcase failHere_ne_ok
  · exact .of_skipChar hpeek rfl hcase
  · obtain ⟨_, _, _, hcomma⟩ := bind_eq_ok.mp hcase
    obtain ⟨c?, _, _, hfail⟩ := bind_eq_ok.mp hcomma
    split at hfail
    · exact absurd hfail failNext_ne_ok
    · exact absurd hfail failNext_ne_ok
  · exact absurd hcase failNext_ne_ok

theorem takes_of_closeObject (h : closeObject cursor = .ok () next) : cursor.Takes '\x7d' next := by
  unfold closeObject at h
  obtain ⟨c?, start, hpeek, hcase⟩ := bind_eq_ok.mp h
  split at hcase
  · exact absurd hcase failHere_ne_ok
  · exact .of_skipChar hpeek rfl hcase
  · exact absurd hcase failNext_ne_ok
  · exact absurd hcase failNext_ne_ok

/-- A list goes on at once if it has been opened, and otherwise behind a comma. -/
theorem of_hasItem {first more : Bool} (h : hasItem first cursor = .ok more next) :
    if more then ∃ c ≠ ']', next.rest.head? = some c ∧
      if first then next = cursor.dropWhile isSpace
      else ∃ middle, cursor.Takes ',' middle ∧ next = middle.dropWhile isSpace
    else next = cursor.dropWhile isSpace := by
  unfold hasItem at h
  obtain ⟨c?, start, hpeek, hcase⟩ := bind_eq_ok.mp h
  obtain ⟨hstart, hhead⟩ := of_peekToken? hpeek
  split at hcase
  · exact absurd hcase failHere_ne_ok
  · cases hcase
    exact hstart
  · rename_i c hlast
    cases first with
    | true =>
        cases hcase
        exact ⟨c, hlast, hhead, hstart⟩
    | false =>
        by_cases hcomma : c = ','
        · simp only [hcomma, Bool.false_eq_true, if_false, if_true] at hcase
          obtain ⟨_, middle, hskip, hmore⟩ := bind_eq_ok.mp hcase
          have htakes : cursor.Takes ',' middle := .of_skipChar hpeek (congrArg some hcomma) hskip
          obtain ⟨c?, _, hpeek, hcase⟩ := bind_eq_ok.mp hmore
          obtain ⟨rfl, hhead⟩ := of_peekToken? hpeek
          split at hcase
          · exact absurd hcase failHere_ne_ok
          · exact absurd hcase failNext_ne_ok
          · rename_i c hlast
            cases hcase
            exact ⟨c, hlast, hhead, middle, htakes, rfl⟩
        · simp only [hcomma, Bool.false_eq_true, if_false] at hcase
          exact absurd hcase failNext_ne_ok

theorem of_key {c : Char} {more : Bool} {start : Cursor}
    (hpeek : peekToken? cursor = .ok (some c) start)
    (h : hasMember.key c start = .ok more next) : more = true ∧ cursor.Takes '"' next := by
  unfold hasMember.key at h
  by_cases hquote : c = '"'
  · rw [if_pos hquote] at h
    obtain ⟨_, _, hskip, hpure⟩ := bind_eq_ok.mp h
    obtain ⟨rfl, rfl⟩ := pure_eq_ok.mp hpure
    exact ⟨rfl, .of_skipChar hpeek (congrArg some hquote) hskip⟩
  · rw [if_neg hquote] at h
    exact absurd h failNext_ne_ok

/-- An object goes on with the quote of a key, at once or behind a comma. -/
theorem of_hasMember {first more : Bool} (h : hasMember first cursor = .ok more next) :
    if more then
      if first then cursor.Takes '"' next
      else ∃ middle, cursor.Takes ',' middle ∧ middle.Takes '"' next
    else next = cursor.dropWhile isSpace := by
  unfold hasMember at h
  obtain ⟨c?, start, hpeek, hcase⟩ := bind_eq_ok.mp h
  split at hcase
  · exact absurd hcase failHere_ne_ok
  · cases hcase
    exact (of_peekToken? hpeek).1
  · rename_i c hlast
    cases first with
    | true =>
        obtain ⟨rfl, htakes⟩ := of_key hpeek hcase
        exact htakes
    | false =>
        by_cases hcomma : c = ','
        · simp only [hcomma, Bool.false_eq_true, if_false, if_true] at hcase
          obtain ⟨_, middle, hskip, hmore⟩ := bind_eq_ok.mp hcase
          have htakes : cursor.Takes ',' middle := .of_skipChar hpeek (congrArg some hcomma) hskip
          obtain ⟨c?, start, hpeek, hcase⟩ := bind_eq_ok.mp hmore
          split at hcase
          · exact absurd hcase failHere_ne_ok
          · exact absurd hcase failNext_ne_ok
          · obtain ⟨rfl, hkey⟩ := of_key hpeek hcase
            exact ⟨middle, htakes, hkey⟩
        · simp only [hcomma, Bool.false_eq_true, if_false] at hcase
          exact absurd hcase failNext_ne_ok

/-! ## What punctuation is read from -/

theorem dropWhile_of_not {p : Char → Bool} {c : Char} {rest : List Char}
    (h : cursor.rest = c :: rest) (hc : ¬p c) : cursor.dropWhile p = cursor :=
  dropWhile_eq_self (by simp [h, hc])

theorem Cursor.takes_of_cons {c : Char} {rest : List Char} (h : cursor.rest = c :: rest)
    (hc : ¬isSpace c) : cursor.Takes c (cursor.tail c rest) := by
  unfold Takes
  rw [dropWhile_of_not h hc]
  exact ⟨rest, h, rfl⟩

theorem closeList_of_takes (h : cursor.Takes ']' next) : closeList cursor = .ok () next :=
  (run_bind _ h.peekToken?).trans h.skipChar

theorem closeObject_of_takes (h : cursor.Takes '\x7d' next) : closeObject cursor = .ok () next :=
  (run_bind _ h.peekToken?).trans h.skipChar

theorem colon_of_takes (h : cursor.Takes ':' next) : colon cursor = .ok () next :=
  (run_bind _ h.peekToken?).trans h.skipChar

theorem hasItem_end (first : Bool) (h : cursor.Takes ']' next) :
    hasItem first cursor = .ok false (cursor.dropWhile isSpace) :=
  run_bind _ h.peekToken?

theorem hasItem_first {c : Char} (h : (cursor.dropWhile isSpace).rest.head? = some c)
    (hc : c ≠ ']') : hasItem true cursor = .ok true (cursor.dropWhile isSpace) := by
  unfold hasItem
  rw [run_bind _ (peekToken?_eq cursor), h]
  generalize hsome : some c = c?
  split
  · cases hsome
  · exact absurd (Option.some.inj hsome) hc
  · rfl

theorem hasItem_later {c : Char} (hcomma : cursor.Takes ',' middle)
    (h : (middle.dropWhile isSpace).rest.head? = some c) (hc : c ≠ ']') :
    hasItem false cursor = .ok true (middle.dropWhile isSpace) := by
  refine (run_bind _ hcomma.peekToken?).trans ((run_bind _ hcomma.skipChar).trans ?_)
  refine (run_bind _ (peekToken?_eq middle)).trans ?_
  rw [h]
  generalize hsome : some c = c?
  split
  · cases hsome
  · exact absurd (Option.some.inj hsome) hc
  · rfl

theorem hasMember_end (first : Bool) (h : cursor.Takes '\x7d' next) :
    hasMember first cursor = .ok false (cursor.dropWhile isSpace) :=
  run_bind _ h.peekToken?

theorem hasMember_first (h : cursor.Takes '"' next) : hasMember true cursor = .ok true next :=
  (run_bind _ h.peekToken?).trans (run_bind _ h.skipChar)

theorem hasMember_later (hcomma : cursor.Takes ',' middle) (h : middle.Takes '"' next) :
    hasMember false cursor = .ok true next :=
  (run_bind _ hcomma.peekToken?).trans ((run_bind _ hcomma.skipChar).trans
    ((run_bind _ h.peekToken?).trans (run_bind _ h.skipChar)))

end ToolDiscovery.Json
