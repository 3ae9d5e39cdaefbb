import ToolDiscovery.Json.Skip
import ToolDiscovery.Proofs.Readers

/-!
# Numbers that are read and numbers that are passed over

`number_takes` shows that what is read as a number is a number in the range that is kept, and that
passing over it ends in the same place.
-/

namespace ToolDiscovery.Json

variable {cursor next : Cursor}

/-! ## What is read -/

/-- A number as it is read. Whole numbers are kept exactly only as long as they fit. -/
inductive IsNumber : Json → Prop where
  | integer {n : Int} (hleast : minInteger ≤ n) (hgreatest : n ≤ maxInteger) : IsNumber (.integer n)
  | real (x : Float) : IsNumber (.real x)

theorem Significand.addWhole_le {s : Significand} (h : s.digits ≤ maxInteger) (c : Char) :
    (s.addWhole c).digits ≤ maxInteger := by
  unfold addWhole
  simp only
  split
  · exact h
  · rename_i hfits
    simp only [Bool.or_eq_true, decide_eq_true_eq, not_or, Nat.not_lt] at hfits
    exact hfits.2

theorem foldl_addWhole_le {s : Significand} (h : s.digits ≤ maxInteger) (digits : List Char) :
    (digits.foldl Significand.addWhole s).digits ≤ maxInteger := by
  induction digits generalizing s with
  | nil => exact h
  | cons c digits ih => exact ih (Significand.addWhole_le h c)

theorem wholeOf_isNumber {digits : Nat} (h : digits ≤ maxInteger) (negative : Bool) :
    IsNumber (wholeOf negative digits) := by
  unfold wholeOf
  split
  · split
    · exact .real _
    · rename_i hfits
      rw [not_or, Int.not_lt] at hfits
      exact .integer hfits.2 (by omega)
  · exact .integer (by unfold minInteger; omega) (by omega)

theorem whole_le {c : Char} {s : Significand} (h : number.whole c cursor = .ok s next) :
    s.digits ≤ maxInteger := by
  unfold number.whole at h
  by_cases hzero : c = '0'
  · rw [if_pos hzero] at h
    obtain ⟨_, _, _, hafter⟩ := bind_eq_ok.mp h
    obtain ⟨c?, _, _, hzeroAlone⟩ := bind_eq_ok.mp hafter
    split at hzeroAlone
    · split at hzeroAlone
      · exact absurd hzeroAlone failNext_ne_ok
      · cases hzeroAlone
        exact Nat.zero_le _
    · cases hzeroAlone
      exact Nat.zero_le _
  · rw [if_neg hzero] at h
    cases h
    exact foldl_addWhole_le (Nat.zero_le _) _

theorem realOf_isNumber {negative : Bool} {s : Significand} {json : Json}
    (h : realOf negative s cursor = .ok json next) : next = cursor ∧ IsNumber json := by
  unfold realOf at h
  generalize scaleByPower 4 s.digits.toUInt64.toFloat s.exponent = x? at h
  cases x? with
  | none => exact absurd h failHere_ne_ok
  | some x =>
      cases h
      exact ⟨rfl, .real _⟩

/-- The digits of an exponent are taken to their end. -/
theorem exponentDigits_takes {negative minus : Bool} {s : Significand} {value fuel : Nat}
    {json : Json} (h : exponentDigits negative s minus value fuel cursor = .ok json next)
    (hfuel : cursor.rest.length < fuel) : next = cursor.dropWhile isDigit ∧ IsNumber json := by
  induction fuel generalizing cursor value with
  | zero => exact absurd hfuel (Nat.not_lt_zero _)
  | succ fuel ih =>
      unfold exponentDigits at h
      cases hrest : cursor.rest with
      | nil =>
          have hhead : cursor.rest.head? = none := by rw [hrest, List.head?_nil]
          rw [run_bind _ (peek?_eq hhead)] at h
          obtain ⟨rfl, hnumber⟩ := realOf_isNumber h
          exact ⟨(dropWhile_eq_self (by simp [hhead])).symm, hnumber⟩
      | cons c rest =>
          have hhead : cursor.rest.head? = some c := by rw [hrest, List.head?_cons]
          rw [run_bind _ (peek?_eq hhead)] at h
          by_cases hdigit : isDigit c
          · simp only [hdigit, if_true] at h
            rw [run_bind _ (skipChar_eq hrest)] at h
            rw [dropWhile_of_cons hrest hdigit]
            split at h
            · split at h
              · exact absurd h failHere_ne_ok
              · cases h
                exact ⟨rfl, .real _⟩
            · rw [hrest, List.length_cons] at hfuel
              exact ih h (Nat.lt_of_succ_lt_succ hfuel)
          · simp only [hdigit, Bool.false_eq_true, if_false] at h
            obtain ⟨rfl, hnumber⟩ := realOf_isNumber h
            exact ⟨(dropWhile_eq_self (by simp [hhead, hdigit])).symm, hnumber⟩

/-! ## What is passed over -/

theorem skipDigits_eq {c : Char} {rest : List Char} (hrest : cursor.rest = c :: rest)
    (hdigit : isDigit c) : skipDigits cursor = .ok () (cursor.dropWhile isDigit) := by
  have htake : takeWhile isDigit cursor =
      .ok (c :: rest.takeWhile isDigit) (cursor.dropWhile isDigit) := by
    unfold takeWhile
    rw [hrest, List.takeWhile_cons_of_pos hdigit]
  unfold skipDigits
  rw [run_bind _ htake]
  rfl

theorem skipExponent_absent (hlower : cursor.rest.head? ≠ some 'e')
    (hupper : cursor.rest.head? ≠ some 'E') : skipExponent cursor = .ok () cursor := by
  unfold skipExponent
  rw [run_bind _ (peek?_eq rfl)]
  generalize cursor.rest.head? = c? at hlower hupper
  split
  · exact absurd rfl hlower
  · exact absurd rfl hupper
  · rfl

theorem exponentAfterSign_takes {negative : Bool} {s : Significand} {sign : Option Char}
    {json : Json} (hfits : cursor.Fits)
    (h : exponentAfterSign negative s sign cursor = .ok json next) :
    skipDigits cursor = .ok () next ∧ IsNumber json := by
  obtain ⟨c?, _, hpeek, hcase⟩ := bind_eq_ok.mp h
  obtain ⟨rfl, hhead⟩ := of_peek? hpeek
  cases c? with
  | none => exact absurd hcase failHere_ne_ok
  | some c =>
      obtain ⟨rest, hrest⟩ := List.head?_eq_some_iff.mp hhead
      by_cases hdigit : isDigit c
      · simp only [hdigit, if_true] at hcase
        obtain ⟨fuel, _, hfuel, hread⟩ := bind_eq_ok.mp hcase
        cases hfuel
        obtain ⟨rfl, hnumber⟩ := exponentDigits_takes hread (Nat.lt_succ_of_le hfits)
        exact ⟨skipDigits_eq hrest hdigit, hnumber⟩
      · simp only [hdigit, Bool.false_eq_true, if_false] at hcase
        exact absurd hcase failNext_ne_ok

theorem exponentPart_takes {negative : Bool} {s : Significand} {json : Json} (hfits : cursor.Fits)
    (hmark : cursor.rest.head? = some 'e' ∨ cursor.rest.head? = some 'E')
    (h : exponentPart negative s cursor = .ok json next) :
    skipExponent cursor = .ok () next ∧ IsNumber json := by
  rw [exponentPart_eq] at h
  obtain ⟨_, start, hskip, hsigned⟩ := bind_eq_ok.mp h
  obtain ⟨sign, same, hpeek, hrest⟩ := bind_eq_ok.mp hsigned
  have hstart : start.Fits := hfits.of_follows (Advances.skipChar hskip)
  have hsame : same = start := (of_peek? hpeek).1
  rw [hsame] at hpeek hrest
  have hexponent : skipExponent cursor = (if sign = some '+' ∨ sign = some '-'
      then skipChar >>= fun _ => skipDigits else skipDigits) start := by
    rcases hmark with hmark | hmark
    · exact (run_bind _ (peek?_eq hmark)).trans ((run_bind _ hskip).trans (run_bind _ hpeek))
    · exact (run_bind _ (peek?_eq hmark)).trans ((run_bind _ hskip).trans (run_bind _ hpeek))
  rw [hexponent]
  by_cases hsigned : sign = some '+' ∨ sign = some '-'
  · rw [if_pos hsigned] at hrest ⊢
    obtain ⟨_, after, hskip, hrest⟩ := bind_eq_ok.mp hrest
    rw [run_bind _ hskip]
    exact exponentAfterSign_takes (hstart.of_follows (Advances.skipChar hskip)) hrest
  · rw [if_neg hsigned] at hrest ⊢
    exact exponentAfterSign_takes hstart hrest

theorem exponentOrEnd_takes {negative : Bool} {s : Significand} {json : Json} (hfits : cursor.Fits)
    (h : exponentOrEnd negative s cursor = .ok json next) :
    skipExponent cursor = .ok () next ∧ IsNumber json := by
  unfold exponentOrEnd at h
  obtain ⟨c?, _, hpeek, hcase⟩ := bind_eq_ok.mp h
  obtain ⟨rfl, hhead⟩ := of_peek? hpeek
  split at hcase
  · exact exponentPart_takes hfits (.inl hhead) hcase
  · exact exponentPart_takes hfits (.inr hhead) hcase
  · rename_i hlower hupper
    obtain ⟨rfl, hnumber⟩ := realOf_isNumber hcase
    exact ⟨skipExponent_absent (hhead ▸ hlower) (hhead ▸ hupper), hnumber⟩

theorem fractionPart_takes {negative : Bool} {s : Significand} {json : Json} (hfits : cursor.Fits)
    (h : fractionPart negative s cursor = .ok json next) :
    (do
      skipChar
      skipDigits
      skipExponent : Reader Unit) cursor = .ok () next ∧ IsNumber json := by
  unfold fractionPart at h
  obtain ⟨_, start, hskip, hdigits⟩ := bind_eq_ok.mp h
  have hstart : start.Fits := hfits.of_follows (Advances.skipChar hskip)
  obtain ⟨digits, stop, htake, hafter⟩ := bind_eq_ok.mp hdigits
  have hstop : stop.Fits := hstart.of_follows (Advances.takeWhile _ htake)
  have hskipDigits : skipDigits start = (if digits.isEmpty then failNext .invalidNumber
      else pure () : Reader Unit) stop := run_bind _ htake
  rw [run_bind _ hskip]
  by_cases hempty : digits.isEmpty
  · rw [if_pos hempty] at hafter
    obtain ⟨c?, _, _, hfail⟩ := bind_eq_ok.mp hafter
    cases c? with
    | none => exact absurd hfail failHere_ne_ok
    | some c => exact absurd hfail failNext_ne_ok
  · rw [if_neg hempty] at hafter hskipDigits
    rw [run_bind _ hskipDigits]
    exact exponentOrEnd_takes hstop hafter

/-- Where the digits before the point end, passing over the number goes on with what is left. -/
theorem skipNumber_eq {c : Char} {rest : List Char} {s : Significand}
    (hrest : cursor.rest = c :: rest) (hdigit : isDigit c)
    (h : number.whole c cursor = .ok s next) :
    skipNumber cursor = (do
      if (← peek?) = some '.' then skipChar >>= fun _ => skipDigits >>= fun _ => skipExponent
      else skipExponent : Reader Unit) next := by
  have hhead : cursor.rest.head? = some c := by rw [hrest, List.head?_cons]
  unfold number.whole at h
  by_cases hzero : c = '0'
  · rw [if_pos hzero, run_bind _ (skipChar_eq hrest)] at h
    obtain ⟨c?, same, hpeek, halone⟩ := bind_eq_ok.mp h
    have hmore : next = same ∧ (c?.map isDigit).getD false = false := by
      cases c? with
      | none =>
          cases halone
          exact ⟨rfl, rfl⟩
      | some c =>
          by_cases hmore : isDigit c
          · simp only [hmore, if_true] at halone
            exact absurd halone failNext_ne_ok
          · simp only [hmore, Bool.false_eq_true, if_false] at halone
            cases halone
            exact ⟨rfl, by simp [hmore]⟩
    unfold skipNumber
    rw [run_bind _ (peek?_eq hhead), hzero, if_pos rfl, run_bind _ (skipChar_eq hrest),
      run_bind _ hpeek, hmore.1, hmore.2]
    rfl
  · rw [if_neg hzero] at h
    cases h
    unfold skipNumber
    rw [run_bind _ (peek?_eq hhead), if_neg (fun h => hzero (Option.some.inj h)),
      run_bind _ (skipDigits_eq hrest hdigit)]

/-- Whatever is read as a number is passed over to the same place. -/
theorem number_takes {negative : Bool} {json : Json} (hfits : cursor.Fits)
    (h : number negative cursor = .ok json next) :
    skipNumber cursor = .ok () next ∧ IsNumber json := by
  unfold number at h
  obtain ⟨first?, _, hpeek, hread⟩ := bind_eq_ok.mp h
  obtain ⟨rfl, hhead⟩ := of_peek? hpeek
  cases first? with
  | none => exact absurd hread failHere_ne_ok
  | some c =>
      obtain ⟨rest, hrest⟩ := List.head?_eq_some_iff.mp hhead
      by_cases hdigit : isDigit c
      · simp only [hdigit, Bool.not_true, Bool.false_eq_true, if_false] at hread
        obtain ⟨s, middle, hwhole, hafter⟩ := bind_eq_ok.mp hread
        have hmiddle : middle.Fits := hfits.of_follows (Advances.whole c hwhole)
        rw [skipNumber_eq hrest hdigit hwhole]
        obtain ⟨mark?, _, hpeek, hcase⟩ := bind_eq_ok.mp hafter
        obtain ⟨rfl, hmark⟩ := of_peek? hpeek
        rw [run_bind _ hpeek]
        split at hcase
        · rw [if_pos rfl]
          exact fractionPart_takes hmiddle hcase
        · exact exponentPart_takes hmiddle (.inl hmark) hcase
        · exact exponentPart_takes hmiddle (.inr hmark) hcase
        · rename_i hpoint hlower hupper
          rw [if_neg hpoint]
          have hskip := skipExponent_absent (hmark ▸ hlower) (hmark ▸ hupper)
          by_cases hfull : s.full
          · rw [if_pos hfull] at hcase
            obtain ⟨rfl, hnumber⟩ := realOf_isNumber hcase
            exact ⟨hskip, hnumber⟩
          · rw [if_neg hfull] at hcase
            cases hcase
            exact ⟨hskip, wholeOf_isNumber (whole_le hwhole) negative⟩
      · simp only [hdigit, Bool.not_false, if_true] at hread
        exact absurd hread failNext_ne_ok

end ToolDiscovery.Json
