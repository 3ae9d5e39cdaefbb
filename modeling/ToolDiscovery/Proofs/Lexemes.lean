import ToolDiscovery.Proofs.PrintedValues
import ToolDiscovery.Proofs.WrittenForms

/-!
# A token is read alike wherever it stands

What a reader makes of a token does not depend on what comes after it: the token alone gives the
same result. Two runs are compared step by step (`Agree`), one where more text follows and one
where the text ends. A text between quotes is read up to its own quote (`Lexeme.of_stringBody`),
and a word up to white space, punctuation or the end of the text (`Lexeme.of_scalar`).
-/

namespace ToolDiscovery.Json

variable {α β : Type} {cursor alone next last : Cursor} {rest : List Char}

/-! ## Two runs -/

/-- What the first run gives, the second one gives as well, and the places where they end are
related. -/
def Agree (related : Cursor → Cursor → Prop) (run other : EStateM.Result Fault Cursor α) : Prop :=
  ∀ result next, run = .ok result next → ∃ last, other = .ok result last ∧ related next last

namespace Agree

variable {related middle : Cursor → Cursor → Prop}

theorem of_ne_ok {run other : EStateM.Result Fault Cursor α}
    (h : ∀ {result next}, run ≠ .ok result next) : Agree related run other :=
  fun _ _ hrun => absurd hrun h

theorem pure (result : α) (h : related cursor alone) :
    Agree related ((Pure.pure result : Reader α) cursor) ((Pure.pure result : Reader α) alone) := by
  intro value next hrun
  obtain ⟨rfl, rfl⟩ := pure_eq_ok.mp hrun
  exact ⟨alone, rfl, h⟩

theorem bind {first other : Reader α} {more otherMore : α → Reader β}
    (hfirst : Agree middle (first cursor) (other alone))
    (hmore : ∀ result next last, middle next last →
      Agree related (more result next) (otherMore result last)) :
    Agree related ((first >>= more) cursor) ((other >>= otherMore) alone) := by
  intro result next hrun
  obtain ⟨value, stop, hvalue, hrest⟩ := bind_eq_ok.mp hrun
  obtain ⟨otherStop, hother, hstop⟩ := hfirst value stop hvalue
  obtain ⟨last, hlast, hnext⟩ := hmore value stop otherStop hstop result next hrest
  exact ⟨last, (run_bind _ hother).trans hlast, hnext⟩

theorem ite {condition : Prop} [Decidable condition] {yes no otherYes otherNo : Reader α}
    (hyes : condition → Agree related (yes cursor) (otherYes alone))
    (hno : ¬condition → Agree related (no cursor) (otherNo alone)) :
    Agree related ((if condition then yes else no) cursor)
      ((if condition then otherYes else otherNo) alone) := by
  by_cases h : condition
  · rw [if_pos h, if_pos h]
    exact hyes h
  · rw [if_neg h, if_neg h]
    exact hno h

/-- Both runs see the same character. -/
theorem peek_same {more otherMore : Option Char → Reader α} {c? : Option Char}
    (hcursor : cursor.rest.head? = c?) (halone : alone.rest.head? = c?)
    (hmore : Agree related (more c? cursor) (otherMore c? alone)) :
    Agree related ((peek? >>= more) cursor) ((peek? >>= otherMore) alone) := by
  rw [run_bind _ (peek?_eq hcursor), run_bind _ (peek?_eq halone)]
  exact hmore

/-- Both runs take the same character. -/
theorem skip_same {more otherMore : Unit → Reader α} {c : Char} {behind aloneBehind : List Char}
    (hcursor : cursor.rest = c :: behind) (halone : alone.rest = c :: aloneBehind)
    (hmore : Agree related (more () (cursor.tail c behind))
      (otherMore () (alone.tail c aloneBehind))) :
    Agree related ((skipChar >>= more) cursor) ((skipChar >>= otherMore) alone) := by
  rw [run_bind _ (skipChar_eq hcursor), run_bind _ (skipChar_eq halone)]
  exact hmore

end Agree

/-! ## Words -/

/-- Two cursors stand before what is left of a word. At the first one `rest` comes after the word;
at the second one the text ends. -/
structure Cursor.InWord (rest : List Char) (cursor alone : Cursor) : Prop where
  rest : cursor.rest = alone.rest ++ rest
  word : ∀ c ∈ alone.rest, ¬endsWord c
  fits : cursor.Fits
  alone_fits : alone.Fits

theorem endsWord_of_isSpace {c : Char} (h : isSpace c) : endsWord c := by
  unfold endsWord
  rw [h, Bool.true_or]

theorem not_isDigit_of_endsWord {c : Char} (h : endsWord c) : ¬isDigit c := by
  simp only [endsWord, isSpace, Bool.or_eq_true, beq_iff_eq, decide_eq_true_eq, List.mem_cons,
    List.not_mem_nil, or_false] at h
  rcases h with (((rfl | rfl) | rfl) | rfl) | rfl | rfl | rfl | rfl | rfl | rfl | rfl
  all_goals decide

section Word

open Cursor (InWord)

variable (hends : ∀ c ∈ rest.head?, endsWord c)

include hends

/-- At the end of the word the first run sees a character that ends words, and the second one sees
none. -/
theorem Agree.peek {more otherMore : Option Char → Reader α} (h : cursor.InWord rest alone)
    (hmore : ∀ c?, alone.rest.head? = c? →
      Agree (InWord rest) (more c? cursor) (otherMore c? alone))
    (hend : ∀ c, endsWord c → cursor.rest.head? = some c →
      more (some c) = more none ∨ ∀ {result next}, more (some c) cursor ≠ .ok result next) :
    Agree (InWord rest) ((peek? >>= more) cursor) ((peek? >>= otherMore) alone) := by
  cases hrest : alone.rest with
  | cons c behind =>
      have hcursor : cursor.rest.head? = some c := by
        rw [h.rest, hrest, List.cons_append, List.head?_cons]
      exact .peek_same hcursor (by rw [hrest, List.head?_cons])
        (hmore _ (by rw [hrest, List.head?_cons]))
  | nil =>
      have halone : alone.rest.head? = none := by rw [hrest, List.head?_nil]
      have hcursor : cursor.rest.head? = rest.head? := by rw [h.rest, hrest, List.nil_append]
      rw [run_bind _ (peek?_eq hcursor), run_bind _ (peek?_eq halone)]
      cases hhead : rest.head? with
      | none => exact hmore none halone
      | some c =>
          rcases hend c (hends c hhead) (hcursor.trans hhead) with hsame | hfails
          · rw [hsame]
            exact hmore none halone
          · exact .of_ne_ok hfails

omit hends in
theorem Agree.skip {more otherMore : Unit → Reader α} {c : Char} (h : cursor.InWord rest alone)
    (hhead : alone.rest.head? = some c)
    (hmore : ∀ next last, next.InWord rest last →
      next.rest.length < cursor.rest.length → last.rest.length < alone.rest.length →
        Agree (InWord rest) (more () next) (otherMore () last)) :
    Agree (InWord rest) ((skipChar >>= more) cursor) ((skipChar >>= otherMore) alone) := by
  obtain ⟨behind, halone⟩ := List.head?_eq_some_iff.mp hhead
  have hcursor : cursor.rest = c :: (behind ++ rest) := by
    rw [h.rest, halone, List.cons_append]
  refine .skip_same hcursor halone (hmore _ _ ⟨rfl, fun d hd => h.word d ?_, ?_, ?_⟩ ?_ ?_)
  · rw [halone]
    exact List.mem_cons_of_mem c hd
  · exact h.fits.of_follows (Advances.skipChar (skipChar_eq hcursor))
  · exact h.alone_fits.of_follows (Advances.skipChar (skipChar_eq halone))
  · rw [hcursor]
    exact Nat.lt_succ_self _
  · rw [halone]
    exact Nat.lt_succ_self _

/-- Both runs take the same digits. -/
theorem Agree.takeDigits (h : cursor.InWord rest alone) :
    Agree (InWord rest) (takeWhile isDigit cursor) (takeWhile isDigit alone) := by
  have hnone : rest.takeWhile isDigit = [] ∧ rest.dropWhile isDigit = rest := by
    cases rest with
    | nil => exact ⟨rfl, rfl⟩
    | cons c behind =>
        have hc : ¬isDigit c := not_isDigit_of_endsWord (hends c rfl)
        exact ⟨List.takeWhile_cons_of_neg hc, List.dropWhile_cons_of_neg hc⟩
  have htake : cursor.rest.takeWhile isDigit = alone.rest.takeWhile isDigit := by
    rw [h.rest, List.takeWhile_append, hnone.1, List.append_nil]
    split
    · rename_i hall
      exact ((List.takeWhile_prefix isDigit).eq_of_length hall).symm
    · rfl
  have hdrop : cursor.rest.dropWhile isDigit = alone.rest.dropWhile isDigit ++ rest := by
    rw [h.rest, List.dropWhile_append, hnone.2]
    split
    · rename_i hempty
      rw [List.isEmpty_iff.mp hempty, List.nil_append]
    · rfl
  rintro digits next ⟨⟩
  refine ⟨alone.dropWhile isDigit, ?_, hdrop, fun c hc => ?_, ?_, ?_⟩
  · rw [takeWhile_eq, htake]
  · exact h.word c ((List.dropWhile_suffix isDigit).subset hc)
  · exact h.fits.of_follows (dropWhile_follows isDigit cursor)
  · exact h.alone_fits.of_follows (dropWhile_follows isDigit alone)

theorem expectIdent_agree {word : List Char} (hword : ∀ c ∈ word, ¬endsWord c)
    (h : cursor.InWord rest alone) :
    Agree (InWord rest) (expectIdent word cursor) (expectIdent word alone) := by
  induction word generalizing cursor alone with
  | nil => exact .pure () h
  | cons expected word ih =>
      rw [List.forall_mem_cons] at hword
      unfold expectIdent
      refine .peek hends h (fun c? hhead => ?_) fun c hc _ => ?_
      · cases c? with
        | none => exact .of_ne_ok failHere_ne_ok
        | some c =>
            exact .ite (fun _ => .skip h hhead fun _ _ hin _ _ => ih hword.2 hin)
              fun _ => .of_ne_ok failNext_ne_ok
      · have hother : c ≠ expected := fun hsame => hword.1 (hsame ▸ hc)
        simp only [hother, if_false]
        exact .inr failNext_ne_ok

omit hends in
theorem realOf_agree (negative : Bool) (s : Significand) (h : cursor.InWord rest alone) :
    Agree (InWord rest) (realOf negative s cursor) (realOf negative s alone) := by
  unfold realOf
  generalize scaleByPower 4 s.digits.toUInt64.toFloat s.exponent = x?
  cases x? with
  | none => exact .of_ne_ok failHere_ne_ok
  | some x => exact .pure _ h

/-- The bound of the repetition may differ, as long as it is not met. -/
theorem exponentDigits_agree (negative minus : Bool) (s : Significand) {value fuel otherFuel : Nat}
    (h : cursor.InWord rest alone) (hfuel : cursor.rest.length < fuel)
    (hother : alone.rest.length < otherFuel) :
    Agree (InWord rest) (exponentDigits negative s minus value fuel cursor)
      (exponentDigits negative s minus value otherFuel alone) := by
  induction fuel generalizing cursor alone value otherFuel with
  | zero => exact absurd hfuel (Nat.not_lt_zero _)
  | succ fuel ih =>
      obtain ⟨otherFuel, rfl⟩ := Nat.exists_eq_succ_of_ne_zero (Nat.ne_zero_of_lt hother)
      unfold exponentDigits
      refine .peek hends h (fun c? hhead => ?_) fun c hc _ => ?_
      · cases c? with
        | none => exact realOf_agree _ _ h
        | some c =>
            refine .ite (fun _ => .skip h hhead fun next last hin hlt hotherLt => ?_)
              fun _ => realOf_agree _ _ h
            refine .ite (fun _ => .ite (fun _ => .of_ne_ok failHere_ne_ok) fun _ => ?_) fun _ => ?_
            · exact .bind (.takeDigits hends hin) fun _ _ _ hin => .pure _ hin
            · exact ih hin (by omega) (by omega)
      · exact .inl (if_neg (not_isDigit_of_endsWord hc))

theorem exponentAfterSign_agree (negative : Bool) (s : Significand) (sign : Option Char)
    (h : cursor.InWord rest alone) :
    Agree (InWord rest) (exponentAfterSign negative s sign cursor)
      (exponentAfterSign negative s sign alone) := by
  refine .peek hends h (fun c? hhead => ?_) fun c hc _ => .inr ?_
  · cases c? with
    | none => exact .of_ne_ok failHere_ne_ok
    | some c =>
        refine .ite (fun _ => ?_) fun _ => .of_ne_ok failNext_ne_ok
        exact exponentDigits_agree hends _ _ _ h (Nat.lt_succ_of_le h.fits)
          (Nat.lt_succ_of_le h.alone_fits)
  · simp only [not_isDigit_of_endsWord hc]
    exact failNext_ne_ok

theorem exponentPart_agree (negative : Bool) (s : Significand) {c : Char}
    (h : cursor.InWord rest alone) (hhead : alone.rest.head? = some c) :
    Agree (InWord rest) (exponentPart negative s cursor) (exponentPart negative s alone) := by
  rw [exponentPart_eq]
  refine .skip h hhead fun next last hin _ _ => ?_
  refine .peek hends hin (fun sign hsign => ?_) fun d hd hnext => .inr ?_
  · refine .ite (fun hgiven => ?_) fun _ => exponentAfterSign_agree hends _ _ _ hin
    have hsome : ∃ d, sign = some d := by rcases hgiven with h | h <;> exact ⟨_, h⟩
    obtain ⟨d, rfl⟩ := hsome
    exact .skip hin hsign fun _ _ hin _ _ => exponentAfterSign_agree hends _ _ _ hin
  · -- Without a sign a digit must come next.
    have hplus : d ≠ '+' := by rintro rfl; cases hd
    have hminus : d ≠ '-' := by rintro rfl; cases hd
    simp only [Option.some.injEq, hplus, hminus, or_self, if_false]
    intro result stop hrun
    obtain ⟨c?, _, hpeek, hcase⟩ := bind_eq_ok.mp hrun
    obtain ⟨rfl, hsame⟩ := of_peek? hpeek
    cases hnext.symm.trans hsame
    simp only [not_isDigit_of_endsWord hd] at hcase
    exact failNext_ne_ok hcase

theorem exponentOrEnd_agree (negative : Bool) (s : Significand) (h : cursor.InWord rest alone) :
    Agree (InWord rest) (exponentOrEnd negative s cursor) (exponentOrEnd negative s alone) := by
  refine .peek hends h (fun c? hhead => ?_) fun c hc _ => .inl ?_
  · split
    · exact exponentPart_agree hends _ _ h hhead
    · exact exponentPart_agree hends _ _ h hhead
    · exact realOf_agree _ _ h
  · split
    · rename_i hsome
      cases hsome
      cases hc
    · rename_i hsome
      cases hsome
      cases hc
    · rfl

theorem fractionPart_agree (negative : Bool) (s : Significand) {c : Char}
    (h : cursor.InWord rest alone) (hhead : alone.rest.head? = some c) :
    Agree (InWord rest) (fractionPart negative s cursor) (fractionPart negative s alone) := by
  refine .skip h hhead fun next last hin _ _ => ?_
  refine .bind (.takeDigits hends hin) fun digits next last hin => ?_
  refine .ite (fun _ => ?_) fun _ => exponentOrEnd_agree hends _ _ hin
  refine .peek hends hin (fun c? _ => ?_) fun c _ _ => .inr failNext_ne_ok
  cases c? with
  | none => exact .of_ne_ok failHere_ne_ok
  | some c => exact .of_ne_ok failNext_ne_ok

theorem whole_agree {first : Char} (h : cursor.InWord rest alone)
    (hhead : alone.rest.head? = some first) :
    Agree (InWord rest) (number.whole first cursor) (number.whole first alone) := by
  refine .ite (fun _ => .skip h hhead fun next last hin _ _ => ?_) fun _ => ?_
  · refine .peek hends hin (fun c? _ => ?_) fun c hc _ => .inl (if_neg (not_isDigit_of_endsWord hc))
    cases c? with
    | none => exact .pure _ hin
    | some c => exact .ite (fun _ => .of_ne_ok failNext_ne_ok) fun _ => .pure _ hin
  · exact .bind (.takeDigits hends h) fun _ _ _ hin => .pure _ hin

theorem number_agree (negative : Bool) (h : cursor.InWord rest alone) :
    Agree (InWord rest) (number negative cursor) (number negative alone) := by
  refine .peek hends h (fun first? hhead => ?_) fun c hc _ => .inr ?_
  · cases first? with
    | none => exact .of_ne_ok failHere_ne_ok
    | some first =>
        refine .ite (fun _ => .of_ne_ok failNext_ne_ok) fun _ => ?_
        refine .bind (whole_agree hends h hhead) fun s next last hin => ?_
        refine .peek hends hin (fun c? hhead => ?_) fun c hc _ => .inl ?_
        · split
          · exact fractionPart_agree hends _ _ hin hhead
          · exact exponentPart_agree hends _ _ hin hhead
          · exact exponentPart_agree hends _ _ hin hhead
          · exact .ite (fun _ => realOf_agree _ _ hin) fun _ => .pure _ hin
        · split
          · rename_i hsome
            cases hsome
            cases hc
          · rename_i hsome
            cases hsome
            cases hc
          · rename_i hsome
            cases hsome
            cases hc
          · rfl
  · simp only [not_isDigit_of_endsWord hc]
    exact failNext_ne_ok

/-- A word or a number is read alike with and without the text after it. -/
theorem scalar_agree {c : Char} (h : cursor.InWord rest alone)
    (hhead : alone.rest.head? = some c) (hquote : c ≠ '"') :
    Agree (InWord rest) (scalar c cursor) (scalar c alone) := by
  have hident {word : List Char} (hword : word.all (!endsWord ·)) (json : Json) :
      Agree (InWord rest)
        ((do
          skipChar
          expectIdent word
          pure json : Reader Json) cursor)
        ((do
          skipChar
          expectIdent word
          pure json : Reader Json) alone) :=
    .skip h hhead fun _ _ hin _ _ =>
      .bind (expectIdent_agree hends (by simpa using hword) hin) fun _ _ _ hin => .pure json hin
  unfold scalar
  split
  · exact hident (by decide) _
  · exact hident (by decide) _
  · exact hident (by decide) _
  · exact absurd rfl hquote
  · exact .skip h hhead fun _ _ hin _ _ => number_agree hends true hin
  · exact .ite (fun _ => number_agree hends false h) fun _ => .of_ne_ok failNext_ne_ok

end Word

/-- No word goes on at a place. -/
def Cursor.Ended (cursor : Cursor) : Prop := ∀ c ∈ cursor.rest.head?, endsWord c

/-- Nothing is left of a word where no word goes on. -/
theorem Cursor.InWord.eq_nil (h : cursor.InWord rest alone) (hended : cursor.Ended) :
    alone.rest = [] := by
  cases halone : alone.rest with
  | nil => rfl
  | cons c more =>
      have hc : ¬endsWord c := h.word c (by rw [halone]; exact List.mem_cons_self)
      have hhead : cursor.rest.head? = some c := by
        rw [h.rest, halone, List.cons_append, List.head?_cons]
      exact absurd (hended c hhead) hc

/-! ## Texts between quotes -/

/-- Two cursors stand inside of quotes, before the same characters and no more than `limit` of them.
At the first one `rest` comes after the closing quote; at the second one the text ends. -/
def Cursor.InQuotes (rest : List Char) (limit : Nat) (cursor alone : Cursor) : Prop :=
  ∃ body, Quotable body ∧ body.length ≤ limit ∧ cursor.rest = body ++ '"' :: rest ∧
    alone.rest = body ++ ['"']

/-- Two cursors stand behind the backslash of an escape inside of quotes. -/
def Cursor.InEscape (rest : List Char) (limit : Nat) (cursor alone : Cursor) : Prop :=
  ∃ c body, Quotable body ∧ body.length ≤ limit ∧ cursor.rest = c :: (body ++ '"' :: rest) ∧
    alone.rest = c :: (body ++ ['"'])

theorem isSome_of_mapM {f : α → Option β} {items : List α} {results : List β}
    (h : items.mapM f = some results) : ∀ item ∈ items, (f item).isSome := by
  induction items generalizing results with
  | nil => exact nofun
  | cons item items ih =>
      simp only [List.mapM_cons, Option.bind_eq_bind, Option.bind_eq_some_iff] at h
      obtain ⟨result, hitem, results, hitems, -⟩ := h
      exact List.forall_mem_cons.mpr ⟨by rw [hitem]; rfl, ih hitems⟩

/-- Hexadecimal digits between quotes end before the closing quote. -/
theorem Quotable.exists_behind {body digits more : List Char} (h : Quotable body)
    (hdigits : ∀ c ∈ digits, (RangeTable.hexDigit? c).isSome)
    (hsame : body ++ '"' :: rest = digits ++ more) :
    ∃ behind, Quotable behind ∧ body = digits ++ behind ∧ more = behind ++ '"' :: rest := by
  induction digits generalizing body with
  | nil => exact ⟨body, h, rfl, hsame.symm⟩
  | cons c digits ih =>
      rw [List.forall_mem_cons] at hdigits
      cases h with
      | nil =>
          cases hsame
          exact absurd hdigits.1 (by decide)
      | escape =>
          obtain ⟨rfl, -⟩ := List.cons.inj hsame
          exact absurd hdigits.1 (by decide)
      | @plain c' body hquote hbackslash hbody =>
          obtain ⟨rfl, hrest⟩ := List.cons.inj hsame
          obtain ⟨behind, hbehind, rfl, hmore⟩ := ih hbody hdigits.2 hrest
          exact ⟨behind, hbehind, rfl, hmore⟩

section Quotes

open Cursor (InQuotes InEscape)

variable {limit : Nat}

theorem hexEscape_agree (h : cursor.InQuotes rest limit alone) :
    Agree (InQuotes rest limit) (hexEscape cursor) (hexEscape alone) := by
  obtain ⟨body, hbody, hlimit, hcursor, halone⟩ := h
  intro number next hrun
  unfold hexEscape at hrun
  simp only at hrun
  split at hrun
  · cases hrun
  · split at hrun
    · rename_i hsize _ a b c d hdigits
      cases hrun
      have hsplit : body ++ '"' :: rest = cursor.rest.take 4 ++ cursor.rest.drop 4 := by
        rw [List.take_append_drop, hcursor]
      obtain ⟨behind, hbehind, hsame, hdrop⟩ :=
        hbody.exists_behind (isSome_of_mapM hdigits) hsplit
      have hlength : (cursor.rest.take 4).length = 4 := by
        have hmore := congrArg List.length hdrop
        rw [List.length_drop, List.length_append, List.length_cons] at hmore
        rw [List.length_take]
        omega
      have hother : alone.rest = cursor.rest.take 4 ++ (behind ++ ['"']) := by
        rw [halone, ← List.append_assoc, ← hsame]
      have htake : alone.rest.take 4 = cursor.rest.take 4 := by
        rw [hother, List.take_left' hlength]
      have hotherDrop : alone.rest.drop 4 = behind ++ ['"'] := by
        rw [hother, List.drop_left' hlength]
      have hlength' : behind.length ≤ limit := by
        rw [hsame, List.length_append] at hlimit
        omega
      refine ⟨{ alone with
        rest := alone.rest.drop 4
        position := alone.position.afterBytes 4 alone.rest }, ?_,
        behind, hbehind, hlength', hdrop, hotherDrop⟩
      unfold hexEscape
      simp only [htake, if_neg hsize, hdigits]
    · cases hrun

omit limit in
theorem expectInPair_agree {related : Cursor → Cursor → Prop} {c expected : Char}
    {behind aloneBehind : List Char} (hcursor : cursor.rest = c :: behind)
    (halone : alone.rest = c :: aloneBehind)
    (hmet : c = expected → related (cursor.tail c behind) (alone.tail c aloneBehind)) :
    Agree related (expectInPair expected cursor) (expectInPair expected alone) := by
  refine .peek_same (by rw [hcursor, List.head?_cons]) (by rw [halone, List.head?_cons]) ?_
  refine .ite (fun h => ?_) fun _ => .of_ne_ok failNext_ne_ok
  intro result next hrun
  rw [skipChar_eq hcursor] at hrun
  cases hrun
  exact ⟨_, skipChar_eq halone, hmet h⟩

theorem backslash_agree (h : cursor.InQuotes rest limit alone) :
    Agree (InEscape rest limit) (expectInPair '\\' cursor) (expectInPair '\\' alone) := by
  obtain ⟨body, hbody, hlimit, hcursor, halone⟩ := h
  cases hbody with
  | nil => exact expectInPair_agree hcursor halone fun hsame => absurd hsame (by decide)
  | plain _ hbackslash =>
      exact expectInPair_agree hcursor halone fun hsame => absurd hsame hbackslash
  | escape c hbody =>
      exact expectInPair_agree hcursor halone fun _ =>
        ⟨c, _, hbody, Nat.le_of_succ_le (Nat.le_of_succ_le hlimit), rfl, rfl⟩

theorem letter_agree (h : cursor.InEscape rest limit alone) :
    Agree (InQuotes rest limit) (expectInPair 'u' cursor) (expectInPair 'u' alone) := by
  obtain ⟨c, body, hbody, hlimit, hcursor, halone⟩ := h
  exact expectInPair_agree hcursor halone fun _ => ⟨body, hbody, hlimit, rfl, rfl⟩

theorem unicodeEscape_agree (h : cursor.InQuotes rest limit alone) :
    Agree (InQuotes rest limit) (unicodeEscape cursor) (unicodeEscape alone) := by
  refine .bind (hexEscape_agree h) fun first next last hin => ?_
  refine .ite (fun _ => .of_ne_ok failHere_ne_ok) fun _ => .ite (fun _ => ?_) fun _ => .pure _ hin
  refine .bind (backslash_agree hin) fun _ next last hin => ?_
  refine .bind (letter_agree hin) fun _ next last hin => ?_
  refine .bind (hexEscape_agree hin) fun second next last hin => ?_
  exact .ite (fun _ => .pure _ hin) fun _ => .of_ne_ok failHere_ne_ok

/-- An escape ends before the closing quote, even if it is that of a quote. -/
theorem escape_agree (h : cursor.InEscape rest limit alone) :
    Agree (InQuotes rest limit) (escape cursor) (escape alone) := by
  obtain ⟨c, body, hbody, hlimit, hcursor, halone⟩ := h
  refine .peek_same (by rw [hcursor, List.head?_cons]) (by rw [halone, List.head?_cons]) ?_
  generalize hsome : some c = c?
  split
  · exact .of_ne_ok failHere_ne_ok
  · cases hsome
    exact .skip_same hcursor halone (unicodeEscape_agree ⟨body, hbody, hlimit, rfl, rfl⟩)
  · cases hsome
    cases simpleEscape? c with
    | none => exact .of_ne_ok failNext_ne_ok
    | some meant =>
        exact .skip_same hcursor halone (.pure meant ⟨body, hbody, hlimit, rfl, rfl⟩)

omit limit in
theorem stringAfter_backslash {fuel : Nat} {read behind : List Char}
    (h : cursor.rest = '\\' :: behind) :
    stringAfter (fuel + 1) read cursor =
      (escape >>= fun meant => stringAfter fuel (meant :: read)) (cursor.tail '\\' behind) := by
  have hhead : cursor.rest.head? = some '\\' := by rw [h, List.head?_cons]
  have hnone : takeWhile isPlain cursor = .ok [] cursor := takeWhile_of_not h (by decide)
  exact (run_bind _ hnone).trans ((run_bind _ (peek?_eq hhead)).trans (run_bind _ (skipChar_eq h)))

omit limit in
/-- A control character may not stand between quotes. -/
theorem stringAfter_ne_ok {fuel : Nat} {c : Char} {read behind : List Char} {text : String}
    (h : cursor.rest = c :: behind) (hquote : c ≠ '"') (hbackslash : c ≠ '\\')
    (hplain : ¬isPlain c) : stringAfter fuel read cursor ≠ .ok text next := by
  cases fuel with
  | zero => exact failHere_ne_ok
  | succ fuel =>
      have hhead : cursor.rest.head? = some c := by rw [h, List.head?_cons]
      unfold stringAfter
      rw [run_bind _ (takeWhile_of_not h hplain), run_bind _ (peek?_eq hhead)]
      generalize hsome : some c = c?
      split
      · exact failHere_ne_ok
      · exact absurd (Option.some.inj hsome) hquote
      · exact absurd (Option.some.inj hsome) hbackslash
      · exact failNext_ne_ok

/-- A text is read up to its closing quote, alike with and without what comes after it. -/
theorem stringAfter_agree {fuel otherFuel : Nat} (read : List Char)
    (h : cursor.InQuotes rest limit alone) (hfuel : limit < fuel) (hother : limit < otherFuel) :
    Agree (fun next last => next.rest = rest ∧ last.rest = [])
      (stringAfter fuel read cursor) (stringAfter otherFuel read alone) := by
  induction limit using Nat.strongRecOn generalizing cursor alone fuel otherFuel read with
  | ind limit ih =>
      obtain ⟨fuel, rfl⟩ := Nat.exists_eq_succ_of_ne_zero (Nat.ne_zero_of_lt hfuel)
      obtain ⟨otherFuel, rfl⟩ := Nat.exists_eq_succ_of_ne_zero (Nat.ne_zero_of_lt hother)
      obtain ⟨body, hbody, hlimit, hcursor, halone⟩ := h
      cases hbody with
      | nil =>
          rw [List.nil_append] at hcursor halone
          rw [stringAfter_quote hcursor, stringAfter_quote halone]
          exact .pure _ ⟨rfl, rfl⟩
      | @plain c body hquote hbackslash hbody =>
          by_cases hplain : isPlain c
          · rw [stringAfter_plain hcursor hplain, stringAfter_plain halone hplain]
            rw [List.length_cons] at hlimit
            exact ih body.length (by omega) _ ⟨body, hbody, Nat.le_refl _, rfl, rfl⟩
              (by omega) (by omega)
          · exact .of_ne_ok (stringAfter_ne_ok hcursor hquote hbackslash hplain)
      | @escape body c hbody =>
          rw [stringAfter_backslash hcursor, stringAfter_backslash halone]
          rw [List.length_cons, List.length_cons] at hlimit
          refine .bind (escape_agree ⟨c, body, hbody, Nat.le_refl _, rfl, rfl⟩)
            fun meant next last hin => ?_
          exact ih body.length (by omega) _ hin (by omega) (by omega)

theorem stringBody_agree {body : List Char} (hbody : Quotable body) (hfits : cursor.Fits)
    (hother : alone.Fits) (hcursor : cursor.rest = body ++ '"' :: rest)
    (halone : alone.rest = body ++ ['"']) :
    Agree (fun next last => next.rest = rest ∧ last.rest = [])
      (stringBody cursor) (stringBody alone) := by
  unfold Cursor.Fits at hfits hother
  rw [hcursor, List.length_append] at hfits
  rw [halone, List.length_append] at hother
  exact stringAfter_agree [] ⟨body, hbody, Nat.le_refl _, hcursor, halone⟩ (by omega) (by omega)

end Quotes

/-! ## Tokens alone -/

namespace Lexeme

variable {lexeme : Lexeme}

/-- A token starts with a quote, or with a character that does not end words. -/
theorem exists_head (lexeme : Lexeme) :
    ∃ c behind, lexeme.chars = c :: behind ∧ ¬isSpace c ∧ (endsWord c → c = '"') := by
  rcases lexeme.shape with ⟨hne, hword⟩ | ⟨body, -, hchars⟩
  · obtain ⟨c, behind, hchars⟩ := List.exists_cons_of_ne_nil hne
    have hc : ¬endsWord c := hword c (by rw [hchars]; exact List.mem_cons_self)
    exact ⟨c, behind, hchars, fun h => hc (endsWord_of_isSpace h), fun h => absurd h hc⟩
  · exact ⟨'"', _, hchars, by decide, fun _ => rfl⟩

/-- A value without brackets that is read to the end of a text is the one that the text denotes. -/
theorem read_of_scalar {text : String} {c : Char} {behind : List Char} {json : Json}
    (hrest : (Cursor.start text).rest = c :: behind) (hspace : ¬isSpace c)
    (h : scalar c (.start text) = .ok json next) (hend : next.rest = []) :
    Json.read text = .ok json := by
  have hvalue : ValueAt (maxDepth - 1) ((Cursor.start text).dropWhile isSpace) json next := by
    rw [dropWhile_of_not hrest hspace]
    exact valueAt_of_scalar (Cursor.fits_start text) hrest h
  refine readAll_eq_ok.mpr ⟨next, value_of_valueAt (Cursor.fits_start text) hvalue, ?_⟩
  show next.rest.dropWhile isSpace = []
  rw [hend, List.dropWhile_nil]

theorem json?_of_scalar {c : Char} {behind : List Char} {json : Json}
    (hchars : lexeme.chars = c :: behind) (hspace : ¬isSpace c)
    (h : scalar c (.start (.ofList lexeme.chars)) = .ok json next) (hend : next.rest = []) :
    lexeme.json? = some json := by
  have hrest : (Cursor.start (.ofList lexeme.chars)).rest = c :: behind :=
    String.toList_ofList.trans hchars
  unfold json?
  rw [read_of_scalar hrest hspace h hend]
  rfl

/-- What is read behind the first quote of a token is the text that the token denotes. -/
theorem of_stringBody {text : String} (hfits : cursor.Fits)
    (hrest : '"' :: cursor.rest = lexeme.chars ++ rest)
    (h : stringBody cursor = .ok text next) :
    next.rest = rest ∧ lexeme.json? = some (.string text) := by
  rcases lexeme.shape with ⟨hne, hword⟩ | ⟨body, hbody, hchars⟩
  · obtain ⟨c, behind, hchars⟩ := List.exists_cons_of_ne_nil hne
    rw [hchars, List.cons_append] at hrest
    obtain ⟨rfl, -⟩ := List.cons.inj hrest
    exact absurd (by decide) (hword '"' (by rw [hchars]; exact List.mem_cons_self))
  · rw [hchars, List.cons_append, List.append_assoc] at hrest
    have halone : (Cursor.start (.ofList lexeme.chars)).rest = '"' :: (body ++ ['"']) :=
      String.toList_ofList.trans hchars
    have hskip := skipChar_eq halone
    obtain ⟨last, hlast, hnext, hend⟩ := stringBody_agree hbody hfits
      ((Cursor.fits_start _).of_follows (Advances.skipChar hskip)) (List.cons.inj hrest).2 rfl
      text next h
    refine ⟨hnext, json?_of_scalar hchars (by decide) ?_ hend⟩
    exact (run_bind _ hskip).trans (run_bind _ hlast)

theorem text?_of_stringBody {text : String} (hfits : cursor.Fits)
    (hrest : '"' :: cursor.rest = lexeme.chars ++ rest)
    (h : stringBody cursor = .ok text next) : next.rest = rest ∧ lexeme.text? = some text := by
  obtain ⟨hnext, hjson⟩ := of_stringBody hfits hrest h
  refine ⟨hnext, ?_⟩
  unfold text?
  rw [hjson]

/-- What is read of a token is what the token denotes alone, provided that the reader comes to an
end where tokens may end. -/
theorem of_scalar {c : Char} {json : Json} (hfits : cursor.Fits)
    (hrest : cursor.rest = lexeme.chars ++ rest) (hends : ∀ c ∈ rest.head?, endsWord c)
    (hhead : cursor.rest.head? = some c) (h : scalar c cursor = .ok json next)
    (hnext : next.Ended) :
    next.rest = rest ∧ lexeme.json? = some json := by
  obtain ⟨first, behind, hchars, hspace, -⟩ := lexeme.exists_head
  have hcursor : cursor.rest = first :: (behind ++ rest) := by
    rw [hrest, hchars, List.cons_append]
  obtain rfl : first = c := by
    rw [hcursor, List.head?_cons] at hhead
    exact Option.some.inj hhead
  by_cases hquote : first = '"'
  · subst hquote
    have hskip := skipChar_eq hcursor
    have hscalar : scalar '"' = (skipChar >>= fun _ => stringBody >>= fun text =>
      pure (.string text)) := rfl
    rw [hscalar, run_bind _ hskip] at h
    obtain ⟨text, stop, hbody, hpure⟩ := bind_eq_ok.mp h
    obtain ⟨rfl, rfl⟩ := pure_eq_ok.mp hpure
    have htail := hfits.of_follows (Advances.skipChar hskip)
    exact of_stringBody htail (hcursor.symm.trans hrest) hbody
  · have hword : ∀ c ∈ lexeme.chars, ¬endsWord c := by
      rcases lexeme.shape with ⟨-, hword⟩ | ⟨body, -, hbody⟩
      · exact hword
      · exact absurd (List.cons.inj (hchars.symm.trans hbody)).1 hquote
    have hstart : (Cursor.start (.ofList lexeme.chars)).rest = lexeme.chars := String.toList_ofList
    have hin : cursor.InWord rest (.start (.ofList lexeme.chars)) :=
      ⟨by rw [hstart, hrest], by rwa [hstart], hfits, Cursor.fits_start _⟩
    obtain ⟨last, hlast, hstop⟩ :=
      scalar_agree hends hin (by rw [hstart, hchars, List.head?_cons]) hquote json next h
    have hend := hstop.eq_nil hnext
    refine ⟨?_, json?_of_scalar hchars hspace hlast hend⟩
    rw [hstop.rest, hend, List.nil_append]

end Lexeme

end ToolDiscovery.Json
