import ToolDiscovery.Json.Printer
import ToolDiscovery.Proofs.StoredValues

/-!
# Printed values are read back

`read_compact` shows that a value without floating-point numbers is read back from what `compact`
prints, in its canonical form: the members of each object in ascending order, each key once.
-/

namespace ToolDiscovery.Json

open Schema (depthOf)

variable {cursor next : Cursor} {rest : List Char}

/-! ## Words and texts -/

theorem Cursor.rest_tail (cursor : Cursor) (c : Char) (rest : List Char) :
    (cursor.tail c rest).rest = rest := rfl

theorem expectIdent_printed {word : List Char} (h : cursor.rest = word ++ rest) :
    ∃ next, expectIdent word cursor = .ok () next ∧ next.rest = rest := by
  induction word generalizing cursor with
  | nil => exact ⟨cursor, rfl, h⟩
  | cons c word ih =>
      have hhead : cursor.rest.head? = some c := by rw [h, List.cons_append, List.head?_cons]
      obtain ⟨next, hmore, hnext⟩ := ih (cursor.rest_tail c (word ++ rest))
      refine ⟨next, (run_bind _ (peek?_eq hhead)).trans ?_, hnext⟩
      show (if c = c then _ else _ : Reader Unit) cursor = _
      rw [if_pos rfl]
      exact (run_bind _ (skipChar_eq h)).trans hmore

theorem takeWhile_of_not {p : Char → Bool} {c : Char} (h : cursor.rest = c :: rest) (hc : ¬p c) :
    takeWhile p cursor = .ok [] cursor := by
  rw [takeWhile_eq, dropWhile_of_not h hc, h, List.takeWhile_cons_of_neg hc]

section Text

variable {fuel : Nat} {read : List Char} {c : Char}

/-- The quote at the end of a text. -/
theorem stringAfter_quote (h : cursor.rest = '"' :: rest) :
    stringAfter (fuel + 1) read cursor = .ok (.ofList read.reverse) (cursor.tail '"' rest) := by
  have hhead : cursor.rest.head? = some '"' := by rw [h, List.head?_cons]
  have hnone : takeWhile isPlain cursor = .ok [] cursor := takeWhile_of_not h (by decide)
  exact (run_bind _ hnone).trans ((run_bind _ (peek?_eq hhead)).trans (run_bind _ (skipChar_eq h)))

/-- A character that stands for itself is read together with those after it. -/
theorem stringAfter_plain (h : cursor.rest = c :: rest) (hplain : isPlain c) :
    stringAfter (fuel + 1) read cursor =
      stringAfter (fuel + 1) (c :: read) (cursor.tail c rest) := by
  unfold stringAfter
  rw [run_bind _ (takeWhile_eq _ _), run_bind _ (takeWhile_eq _ _), dropWhile_of_cons h hplain, h,
    List.takeWhile_cons_of_pos hplain, List.reverse_cons, List.append_assoc]
  rfl

theorem stringAfter_escape (h : cursor.rest = '\\' :: rest)
    (hescape : escape (cursor.tail '\\' rest) = .ok c next) :
    stringAfter (fuel + 1) read cursor = stringAfter fuel (c :: read) next := by
  have hhead : cursor.rest.head? = some '\\' := by rw [h, List.head?_cons]
  have hnone : takeWhile isPlain cursor = .ok [] cursor := takeWhile_of_not h (by decide)
  exact (run_bind _ hnone).trans ((run_bind _ (peek?_eq hhead)).trans
    ((run_bind _ (skipChar_eq h)).trans (run_bind _ hescape)))

/-- An escape of one letter. -/
theorem escape_simple {meant : Char} (h : cursor.rest = c :: rest) (hletter : c ≠ 'u')
    (hmeant : simpleEscape? c = some meant) : escape cursor = .ok meant (cursor.tail c rest) := by
  have hhead : cursor.rest.head? = some c := by rw [h, List.head?_cons]
  unfold escape
  rw [run_bind _ (peek?_eq hhead)]
  generalize hsome : some c = c?
  split
  · cases hsome
  · exact absurd (Option.some.inj hsome) hletter
  · cases hsome
    rw [hmeant]
    exact run_bind _ (skipChar_eq h)

theorem hexEscape_eq {digits : List Char} {a b c d : Nat} (h : cursor.rest = digits ++ rest)
    (hlength : digits.length = 4) (hsize : digits.foldl (fun size c => size + c.utf8Size) 0 = 4)
    (hdigits : digits.mapM RangeTable.hexDigit? = some [a, b, c, d]) :
    ∃ next, hexEscape cursor = .ok (((a * 16 + b) * 16 + c) * 16 + d) next ∧ next.rest = rest := by
  have htake : cursor.rest.take 4 = digits := by rw [h, ← hlength, List.take_left]
  have hdrop : cursor.rest.drop 4 = rest := by rw [h, ← hlength, List.drop_left]
  unfold hexEscape
  simp only [htake, hsize, hdigits, Nat.lt_irrefl, if_false]
  exact ⟨_, rfl, hdrop⟩

/-- A control character is read back from its number. -/
theorem escape_control {n : Nat} (hn : n < 0x20)
    (h : cursor.rest = ['u', '0', '0', hexDigit (n / 16), hexDigit (n % 16)] ++ rest) :
    ∃ next, escape cursor = .ok (Char.ofNat n) next ∧ next.rest = rest := by
  have hhead : cursor.rest.head? = some 'u' := by rw [h, List.cons_append, List.head?_cons]
  have hsize : ∀ n < 0x20, ['0', '0', hexDigit (n / 16), hexDigit (n % 16)].foldl
      (fun size c => size + c.utf8Size) 0 = 4 := by decide
  have hdigits : ∀ n < 0x20, ['0', '0', hexDigit (n / 16), hexDigit (n % 16)].mapM
      RangeTable.hexDigit? = some [0, 0, n / 16, n % 16] := by decide
  have htail := cursor.rest_tail 'u' (['0', '0', hexDigit (n / 16), hexDigit (n % 16)] ++ rest)
  obtain ⟨next, hhex, hnext⟩ := hexEscape_eq htail rfl (hsize n hn) (hdigits n hn)
  have hnumber : ((0 * 16 + 0) * 16 + n / 16) * 16 + n % 16 = n := by omega
  rw [hnumber] at hhex
  refine ⟨next, ?_, hnext⟩
  have htrailing : isTrailingSurrogate n = false := by simp [isTrailingSurrogate]; omega
  have hleading : isLeadingSurrogate n = false := by simp [isLeadingSurrogate]; omega
  refine (run_bind _ (peek?_eq hhead)).trans ((run_bind _ (skipChar_eq h)).trans ?_)
  refine (run_bind _ hhex).trans ?_
  rw [htrailing, hleading]
  rfl

/-- A character that does not stand for itself is printed as a backslash and an escape, which is
read back. -/
theorem escape_printed (hc : ¬isPlain c) :
    ∃ more, escapedChar c = '\\' :: more ∧ ∀ {cursor rest}, cursor.rest = more ++ rest →
      ∃ next, escape cursor = .ok c next ∧ next.rest = rest := by
  have hletter {letter : Char} (h : letter ≠ 'u') (hmeant : simpleEscape? letter = some c)
      {cursor : Cursor} {rest : List Char} (hrest : cursor.rest = [letter] ++ rest) :
      ∃ next, escape cursor = .ok c next ∧ next.rest = rest :=
    ⟨_, escape_simple hrest h hmeant, rfl⟩
  unfold escapedChar
  split
  · exact ⟨_, rfl, hletter (by decide) rfl⟩
  · exact ⟨_, rfl, hletter (by decide) rfl⟩
  · exact ⟨_, rfl, hletter (by decide) rfl⟩
  · exact ⟨_, rfl, hletter (by decide) rfl⟩
  · exact ⟨_, rfl, hletter (by decide) rfl⟩
  · exact ⟨_, rfl, hletter (by decide) rfl⟩
  · exact ⟨_, rfl, hletter (by decide) rfl⟩
  · rename_i hquote hbackslash _ _ _ _ _
    have hspecial : ¬c = '"' → ¬c = '\\' → c.toNat < 0x20 := by simpa [isPlain] using hc
    have hcontrol := hspecial hquote hbackslash
    rw [if_pos hcontrol]
    refine ⟨_, rfl, fun hrest => ?_⟩
    obtain ⟨next, hnext⟩ := escape_control hcontrol hrest
    rw [Char.ofNat_toNat] at hnext
    exact ⟨next, hnext⟩

theorem escapedChar_of_isPlain (hc : isPlain c) : escapedChar c = [c] := by
  unfold escapedChar
  split
  · exact absurd hc (by decide)
  · exact absurd hc (by decide)
  · exact absurd hc (by decide)
  · exact absurd hc (by decide)
  · exact absurd hc (by decide)
  · exact absurd hc (by decide)
  · exact absurd hc (by decide)
  · have hcontrol : ¬c.toNat < 0x20 := by simp_all [isPlain]
    rw [if_neg hcontrol]

/-- The characters of a text are read back behind its first quote. Each of them takes at most one
round. -/
theorem stringAfter_printed (read : List Char) {characters : List Char}
    (hfuel : characters.length < fuel)
    (h : cursor.rest = characters.flatMap escapedChar ++ '"' :: rest) :
    ∃ next, stringAfter fuel read cursor = .ok (.ofList (read.reverse ++ characters)) next ∧
      next.rest = rest := by
  induction characters generalizing fuel read cursor with
  | nil =>
      obtain ⟨fuel, rfl⟩ := Nat.exists_eq_succ_of_ne_zero (Nat.ne_zero_of_lt hfuel)
      rw [List.append_nil]
      exact ⟨_, stringAfter_quote h, rfl⟩
  | cons c characters ih =>
      obtain ⟨fuel, rfl⟩ := Nat.exists_eq_succ_of_ne_zero (Nat.ne_zero_of_lt hfuel)
      rw [List.length_cons] at hfuel
      rw [List.flatMap_cons, List.append_assoc] at h
      have hmore : (c :: read).reverse ++ characters = read.reverse ++ c :: characters := by
        rw [List.reverse_cons, List.append_assoc, List.singleton_append]
      rw [← hmore]
      -- A plain character is read in the same round as what follows; an escape ends its round.
      by_cases hplain : isPlain c
      · rw [escapedChar_of_isPlain hplain] at h
        rw [stringAfter_plain h hplain]
        exact ih _ (by omega) rfl
      · obtain ⟨more, hprinted, hread⟩ := escape_printed hplain
        rw [hprinted] at h
        obtain ⟨next, hescape, hnext⟩ := hread (cursor.rest_tail '\\' _)
        rw [stringAfter_escape h hescape]
        exact ih _ (by omega) hnext

theorem length_le_flatMap_escapedChar (characters : List Char) :
    characters.length ≤ (characters.flatMap escapedChar).length := by
  induction characters with
  | nil => exact Nat.le_refl _
  | cons c characters ih =>
      have hpos : 0 < (escapedChar c).length := by
        by_cases hplain : isPlain c
        · rw [escapedChar_of_isPlain hplain]
          exact Nat.one_pos
        · obtain ⟨more, hprinted, -⟩ := escape_printed hplain
          rw [hprinted]
          exact Nat.succ_pos _
      rw [List.flatMap_cons, List.length_append, List.length_cons]
      omega

/-- A text is read back behind its first quote. -/
theorem stringBody_printed {text : String} (hfits : cursor.Fits)
    (h : cursor.rest = text.toList.flatMap escapedChar ++ '"' :: rest) :
    ∃ next, stringBody cursor = .ok text next ∧ next.rest = rest := by
  have hlength := length_le_flatMap_escapedChar text.toList
  have hsize : text.toList.length < cursor.size + 1 := by
    unfold Cursor.Fits at hfits
    rw [h, List.length_append] at hfits
    omega
  obtain ⟨next, hread, hnext⟩ := stringAfter_printed [] hsize h
  rw [List.reverse_nil, List.nil_append, String.ofList_toList] at hread
  exact ⟨next, (run_bind _ rfl).trans hread, hnext⟩

end Text

/-! ## Whole numbers -/

/-- What follows a number and does not go on with it. -/
def EndsNumber (rest : List Char) : Prop :=
  ∀ c ∈ rest.head?, ¬isDigit c ∧ c ≠ '.' ∧ c ≠ 'e' ∧ c ≠ 'E'

theorem isDigit_of_mem_toDigits {c : Char} {n : Nat} (h : c ∈ Nat.toDigits 10 n) : isDigit c := by
  have hdigit := Nat.isDigit_of_mem_toDigits (by decide) (by decide) h
  simpa [isDigit, Char.isDigit, Char.le_def] using hdigit

theorem digitValue_digitChar {n : Nat} (h : n < 10) : digitValue n.digitChar = n :=
  Nat.toNat_digitChar_sub_48_of_lt_ten h

/-- The digits of a number that fits are collected to that number. -/
theorem foldl_addWhole_toDigits {n : Nat} (h : n ≤ maxInteger) :
    (Nat.toDigits 10 n).foldl Significand.addWhole ⟨0, 0, false⟩ = ⟨n, 0, false⟩ := by
  induction n using Nat.strongRecOn with
  | ind n ih =>
      have hlast : n % 10 < 10 := Nat.mod_lt _ (by decide)
      by_cases hsmall : n < 10
      · have hvalue := digitValue_digitChar hsmall
        rw [Nat.toDigits_of_lt_base hsmall]
        show Significand.addWhole ⟨0, 0, false⟩ n.digitChar = _
        simp only [Significand.addWhole, hvalue, Bool.false_or, decide_eq_true_eq]
        rw [if_neg (by omega)]
        simp
      · have hvalue := digitValue_digitChar hlast
        -- The last digit comes to what the digits before it have been collected to.
        rw [Nat.toDigits_of_base_le (by decide) (by omega), List.foldl_append,
          ih (n / 10) (by omega) (by omega)]
        show Significand.addWhole ⟨n / 10, 0, false⟩ (n % 10).digitChar = _
        have hwhole : n / 10 * 10 + n % 10 = n := by omega
        simp only [Significand.addWhole, hvalue, hwhole, Bool.false_or, decide_eq_true_eq]
        rw [if_neg (by omega)]

/-- Only zero is printed with a zero in front. -/
theorem toDigits_head {n : Nat} (h : 0 < n) : (Nat.toDigits 10 n).head? ≠ some '0' := by
  induction n using Nat.strongRecOn with
  | ind n ih =>
      by_cases hsmall : n < 10
      · rw [Nat.toDigits_of_lt_base hsmall]
        have hall : ∀ n < 10, 0 < n → [n.digitChar].head? ≠ some '0' := by decide
        exact hall n hsmall h
      · have hhead : (Nat.toDigits 10 (n / 10) ++ [(n % 10).digitChar]).head? =
            (Nat.toDigits 10 (n / 10)).head? :=
          List.head?_append_of_ne_nil _ Nat.toDigits_ne_nil
        rw [Nat.toDigits_of_base_le (by decide) (by omega), hhead]
        exact ih (n / 10) (by omega) (by omega)

theorem takeWhile_printed {p : Char → Bool} {taken : List Char} (h : cursor.rest = taken ++ rest)
    (htaken : ∀ c ∈ taken, p c) (hrest : ∀ c ∈ rest.head?, ¬p c) :
    ∃ next, takeWhile p cursor = .ok taken next ∧ next.rest = rest := by
  have hnone : rest.takeWhile p = [] ∧ rest.dropWhile p = rest := by
    cases rest with
    | nil => exact ⟨rfl, rfl⟩
    | cons c rest =>
        have hc : ¬p c := hrest c rfl
        exact ⟨List.takeWhile_cons_of_neg hc, List.dropWhile_cons_of_neg hc⟩
  refine ⟨cursor.dropWhile p, ?_, ?_⟩
  · rw [takeWhile_eq, h, List.takeWhile_append_of_pos htaken, hnone.1, List.append_nil]
  · show cursor.rest.dropWhile p = rest
    rw [h, List.dropWhile_append_of_pos htaken, hnone.2]

/-- The digits of a number that fits are read to their end. -/
theorem whole_printed {n : Nat} {c : Char} {digits : List Char} (hn : n ≤ maxInteger)
    (hdigits : Nat.toDigits 10 n = c :: digits) (h : cursor.rest = (c :: digits) ++ rest)
    (hends : EndsNumber rest) :
    ∃ next, number.whole c cursor = .ok ⟨n, 0, false⟩ next ∧ next.rest = rest := by
  unfold number.whole
  -- A zero in front is read alone, so it has to be the whole number.
  by_cases hzero : c = '0'
  · have hn : n = 0 := by
      by_contra hpos
      have hhead := toDigits_head (Nat.pos_of_ne_zero hpos)
      rw [hdigits, hzero] at hhead
      exact hhead rfl
    rw [hn, Nat.toDigits_zero] at hdigits
    cases hdigits
    rw [if_pos rfl, hn]
    refine ⟨cursor.tail '0' rest, (run_bind _ (skipChar_eq h)).trans ?_, rfl⟩
    refine (run_bind _ (peek?_eq rfl)).trans ?_
    cases rest with
    | nil => rfl
    | cons d rest =>
        have hd : ¬isDigit d := (hends d rfl).1
        show (if isDigit d then _ else _ : Reader Significand) _ = _
        rw [if_neg hd]
        rfl
  · obtain ⟨next, htake, hnext⟩ := takeWhile_printed (p := isDigit) h
      (fun d hd => isDigit_of_mem_toDigits (hdigits ▸ hd)) fun d hd => (hends d hd).1
    rw [if_neg hzero]
    refine ⟨next, (run_bind _ htake).trans ?_, hnext⟩
    rw [← hdigits, foldl_addWhole_toDigits hn]
    rfl

/-- The digits of a number that fits are read back as that number. -/
theorem number_printed {n : Nat} (negative : Bool) (hn : n ≤ maxInteger)
    (h : cursor.rest = Nat.toDigits 10 n ++ rest) (hends : EndsNumber rest) :
    ∃ next, number negative cursor = .ok (wholeOf negative n) next ∧ next.rest = rest := by
  cases hdigits : Nat.toDigits 10 n with
  | nil => exact absurd hdigits Nat.toDigits_ne_nil
  | cons c digits =>
      rw [hdigits] at h
      have hhead : cursor.rest.head? = some c := by rw [h, List.cons_append, List.head?_cons]
      have hc : isDigit c := isDigit_of_mem_toDigits (hdigits ▸ List.mem_cons_self)
      obtain ⟨next, hwhole, hnext⟩ := whole_printed hn hdigits h hends
      refine ⟨next, (run_bind _ (peek?_eq hhead)).trans ?_, hnext⟩
      simp only [hc, Bool.not_true, Bool.false_eq_true, if_false]
      refine (run_bind _ hwhole).trans ((run_bind _ (peek?_eq rfl)).trans ?_)
      rw [hnext]
      generalize hmark : rest.head? = c?
      split
      · exact absurd rfl (hends '.' hmark).2.1
      · exact absurd rfl (hends 'e' hmark).2.2.1
      · exact absurd rfl (hends 'E' hmark).2.2.2
      · rfl

/-! ## Values -/

/-- Wherever the characters stand in front of what does not go on with a number, they are read as a
value. -/
def ReadAs (depth : Nat) (characters : List Char) (json : Json) : Prop :=
  ∀ {cursor : Cursor} {rest : List Char}, cursor.Fits → cursor.rest = characters ++ rest →
    EndsNumber rest → ∃ next, value depth cursor = .ok json next ∧ next.rest = rest

variable {depth : Nat}

/-- A value without brackets is read from its first character on. -/
theorem readAs_of_valueAt {c : Char} {characters : List Char} {json : Json} (hc : ¬isSpace c)
    (h : ∀ {cursor : Cursor} {rest : List Char}, cursor.Fits →
      cursor.rest = c :: (characters ++ rest) → EndsNumber rest →
        ∃ next, ValueAt depth cursor json next ∧ next.rest = rest) :
    ReadAs (depth + 1) (c :: characters) json := by
  intro cursor rest hfits hrest hends
  obtain ⟨next, hvalue, hnext⟩ := h hfits hrest hends
  rw [← dropWhile_of_not hrest hc] at hvalue
  exact ⟨next, value_of_valueAt hfits hvalue, hnext⟩

/-- A word is read as the value that it stands for. -/
theorem word_readAs {c : Char} {word : List Char} {json : Json} (hc : ¬isSpace c)
    (h : ∀ {cursor next : Cursor} {rest : List Char}, cursor.rest = c :: rest →
      expectIdent word (cursor.tail c rest) = .ok () next → ValueAt depth cursor json next) :
    ReadAs (depth + 1) (c :: word) json := by
  refine readAs_of_valueAt hc ?_
  intro cursor rest hfits hrest _
  obtain ⟨next, hword, hnext⟩ := expectIdent_printed (cursor.rest_tail c (word ++ rest))
  exact ⟨next, h hrest hword, hnext⟩

theorem null_readAs : ReadAs (depth + 1) (compactChars .null) .null :=
  word_readAs (by decide) .null

theorem boolean_readAs (value : Bool) :
    ReadAs (depth + 1) (compactChars (.boolean value)) (.boolean value) := by
  cases value with
  | true => exact word_readAs (by decide) .yes
  | false => exact word_readAs (by decide) .no

theorem string_readAs (text : String) :
    ReadAs (depth + 1) (compactChars (.string text)) (.string text) := by
  show ReadAs (depth + 1) ('"' :: (text.toList.flatMap escapedChar ++ ['"'])) _
  refine readAs_of_valueAt (by decide) ?_
  intro cursor rest hfits hrest _
  rw [List.append_assoc] at hrest
  have htail := hfits.of_follows (Advances.skipChar (skipChar_eq hrest))
  obtain ⟨next, hbody, hnext⟩ := stringBody_printed htail rfl
  exact ⟨next, .text hrest hbody, hnext⟩

theorem not_isSpace_of_isDigit {c : Char} (h : isDigit c) : ¬isSpace c := by
  intro hspace
  have hcases : ((c = ' ' ∨ c = '\n') ∨ c = '\t') ∨ c = '\r' := by simpa [isSpace] using hspace
  rcases hcases with ((rfl | rfl) | rfl) | rfl <;> exact absurd h (by decide)

theorem integer_readAs {n : Int} (hleast : minInteger ≤ n) (hgreatest : n ≤ maxInteger) :
    ReadAs (depth + 1) (compactChars (.integer n)) (.integer n) := by
  have hsize : n.natAbs ≤ maxInteger := by
    unfold minInteger at hleast
    unfold maxInteger at hgreatest ⊢
    omega
  show ReadAs (depth + 1) (integerChars n) _
  unfold integerChars
  by_cases hneg : n < 0
  · have hwhole : wholeOf true n.natAbs = .integer n := by
      have hfits : ¬(n.natAbs = 0 ∨ -(n.natAbs : Int) < minInteger) := by omega
      have hsame : -(n.natAbs : Int) = n := by omega
      unfold wholeOf
      rw [if_pos rfl, if_neg hfits, hsame]
    rw [if_pos hneg]
    refine readAs_of_valueAt (by decide) ?_
    intro cursor rest hfits hrest hends
    obtain ⟨next, hnumber, hnext⟩ :=
      number_printed true hsize (cursor.rest_tail '-' _) hends
    rw [hwhole] at hnumber
    exact ⟨next, .number hrest (.inl rfl) (.integer hleast hgreatest)
      ((run_bind _ (skipChar_eq hrest)).trans hnumber), hnext⟩
  · have hwhole : wholeOf false n.natAbs = .integer n := by
      have hsame : (n.natAbs : Int) = n := by omega
      unfold wholeOf
      rw [if_neg Bool.false_ne_true, hsame]
    rw [if_neg hneg]
    cases hdigits : Nat.toDigits 10 n.natAbs with
    | nil => exact absurd hdigits Nat.toDigits_ne_nil
    | cons c digits =>
        have hc : isDigit c := isDigit_of_mem_toDigits (hdigits ▸ List.mem_cons_self)
        refine readAs_of_valueAt (not_isSpace_of_isDigit hc) ?_
        intro cursor rest hfits hrest hends
        obtain ⟨next, hnumber, hnext⟩ := number_printed false hsize
          (hdigits.symm ▸ hrest : cursor.rest = Nat.toDigits 10 n.natAbs ++ rest) hends
        rw [hwhole] at hnumber
        exact ⟨next, .number hrest (.inr hc) (.integer hleast hgreatest)
          ((scalar_of_digit hc).symm ▸ hnumber), hnext⟩

/-! ## Lists and objects -/

/-- A number ends where the next item or the end of the list follows. -/
theorem endsNumber_later {α : Type} (printed : α → List Char) (items : List α)
    (hrest : EndsNumber rest) :
    EndsNumber ((items.flatMap fun item => ',' :: printed item) ++ rest) := by
  cases items with
  | nil => exact hrest
  | cons item items =>
      rintro c ⟨⟩
      decide

theorem endsNumber_bracket : EndsNumber (']' :: rest) := by
  rintro c ⟨⟩
  decide

theorem endsNumber_brace : EndsNumber ('\x7d' :: rest) := by
  rintro c ⟨⟩
  decide

theorem compactItems_cons (item : Json) (items : List Json) :
    compactItems (item :: items) =
      compactChars item ++ items.flatMap fun item => ',' :: compactChars item := by
  induction items generalizing item with
  | nil => rw [compactItems, List.flatMap_nil, List.append_nil]
  | cons next items ih => rw [compactItems, ih, List.flatMap_cons, List.cons_append]

/-- The characters of a member. -/
def memberChars (member : String × Json) : List Char :=
  stringChars member.1 ++ ':' :: compactChars member.2

theorem memberChars_append (member : String × Json) (rest : List Char) :
    memberChars member ++ rest = '"' :: (member.1.toList.flatMap escapedChar ++
      '"' :: ':' :: (compactChars member.2 ++ rest)) := by
  simp only [memberChars, stringChars, List.append_assoc, List.cons_append, List.nil_append]

theorem compactMembers_cons (member : String × Json) (members : Members) :
    compactMembers (member :: members) =
      memberChars member ++ members.flatMap fun member => ',' :: memberChars member := by
  induction members generalizing member with
  | nil => rw [compactMembers, List.flatMap_nil, List.append_nil, memberChars]
  | cons next members ih =>
      rw [compactMembers, ih]
      simp only [memberChars, List.flatMap_cons, List.append_assoc, List.cons_append]

theorem noItems_printed {first : Bool} (hrest : cursor.rest = ']' :: rest) :
    ItemsAt depth first cursor [] cursor := by
  have hend := hasItem_end first (Cursor.takes_of_cons hrest (by decide))
  rw [dropWhile_of_not hrest (by decide)] at hend
  exact .done hend

theorem noMembers_printed {first : Bool} (hrest : cursor.rest = '\x7d' :: rest) :
    MembersAt depth first cursor [] cursor := by
  have hend := hasMember_end first (Cursor.takes_of_cons hrest (by decide))
  rw [dropWhile_of_not hrest (by decide)] at hend
  exact .done hend

/-- A value that is read starts with a character that does not end a list. -/
theorem head_of_value {depth : Nat} {json : Json} (hfits : cursor.Fits)
    (h : value depth cursor = .ok json next) :
    ∃ c ≠ ']', (cursor.dropWhile isSpace).rest.head? = some c := by
  cases depth with
  | zero => exact absurd h failNext_ne_ok
  | succ depth =>
      obtain ⟨c, rest, hrest, hstarts⟩ := (valueAt_of_ok hfits h).starts
      refine ⟨c, ?_, by rw [hrest, List.head?_cons]⟩
      rintro rfl
      cases json with
      | boolean value => cases value <;> simp [Starts] at hstarts
      | _ => simp [Starts, isDigit] at hstarts

/-- The items after the first one are read one behind the other. -/
theorem laterItems_printed {items : List Json}
    (h : ∀ item ∈ items, ReadAs depth (compactChars item) item.canonical) (hfits : cursor.Fits)
    (hrest : cursor.rest = (items.flatMap fun item => ',' :: compactChars item) ++ ']' :: rest) :
    ∃ next, ItemsAt depth false cursor (items.map canonical) next ∧ next.rest = ']' :: rest := by
  induction items generalizing cursor with
  | nil =>
      exact ⟨cursor, noItems_printed hrest, hrest⟩
  | cons item items ih =>
      rw [List.flatMap_cons, List.append_assoc, List.cons_append] at hrest
      have hcomma := Cursor.takes_of_cons hrest (by decide)
      have htail := hfits.of_follows hcomma.follows.1
      obtain ⟨stop, hvalue, hstop⟩ := h item List.mem_cons_self htail rfl
        (endsNumber_later _ items endsNumber_bracket)
      -- A bracket behind the comma would be refused, but no value starts with one.
      obtain ⟨c, hc, hhead⟩ := head_of_value htail hvalue
      obtain ⟨next, hitems, hnext⟩ := ih
        (fun other hother => h other (List.mem_cons_of_mem _ hother))
        (htail.of_follows (value_takes hvalue).1) hstop
      exact ⟨next, .more (hasItem_later hcomma hhead hc) (value_dropWhile.mpr hvalue) hitems, hnext⟩

theorem items_printed {items : List Json}
    (h : ∀ item ∈ items, ReadAs depth (compactChars item) item.canonical) (hfits : cursor.Fits)
    (hrest : cursor.rest = compactItems items ++ ']' :: rest) :
    ∃ next, ItemsAt depth true cursor (items.map canonical) next ∧ next.rest = ']' :: rest := by
  cases items with
  | nil =>
      exact ⟨cursor, noItems_printed hrest, hrest⟩
  | cons item items =>
      rw [compactItems_cons, List.append_assoc] at hrest
      obtain ⟨stop, hvalue, hstop⟩ := h item List.mem_cons_self hfits hrest
        (endsNumber_later _ items endsNumber_bracket)
      obtain ⟨c, hc, hhead⟩ := head_of_value hfits hvalue
      obtain ⟨next, hitems, hnext⟩ := laterItems_printed
        (fun other hother => h other (List.mem_cons_of_mem _ hother))
        (hfits.of_follows (value_takes hvalue).1) hstop
      exact ⟨next, .more (hasItem_first hhead hc) (value_dropWhile.mpr hvalue) hitems, hnext⟩

/-- A member is read from the quote of its key on. -/
theorem member_printed {member : String × Json}
    (h : ReadAs depth (compactChars member.2) member.2.canonical) (hfits : cursor.Fits)
    (hrest : cursor.rest = memberChars member ++ rest) (hends : EndsNumber rest) :
    ∃ name sign start stop, cursor.Takes '"' name ∧ stringBody name = .ok member.1 sign ∧
      colon sign = .ok () start ∧ value depth start = .ok member.2.canonical stop ∧ stop.Fits ∧
      stop.rest = rest := by
  rw [memberChars_append] at hrest
  have hquote := Cursor.takes_of_cons hrest (by decide)
  have hname := hfits.of_follows hquote.follows.1
  obtain ⟨sign, hkey, hsign⟩ := stringBody_printed hname rfl
  have hcolon := Cursor.takes_of_cons hsign (by decide)
  have hstart := (hname.of_follows (Advances.stringBody hkey)).of_follows hcolon.follows.1
  obtain ⟨stop, hvalue, hstop⟩ := h hstart rfl hends
  exact ⟨_, sign, _, stop, hquote, hkey, colon_of_takes hcolon, hvalue,
    hstart.of_follows (value_takes hvalue).1, hstop⟩

/-- The members after the first one are read one behind the other. -/
theorem laterMembers_printed {members : Members}
    (h : ∀ member ∈ members, ReadAs depth (compactChars member.2) member.2.canonical)
    (hfits : cursor.Fits)
    (hrest : cursor.rest = (members.flatMap fun member => ',' :: memberChars member) ++
      '\x7d' :: rest) :
    ∃ next, MembersAt depth false cursor
      (members.map fun member => (member.1, member.2.canonical)) next ∧
        next.rest = '\x7d' :: rest := by
  induction members generalizing cursor with
  | nil =>
      exact ⟨cursor, noMembers_printed hrest, hrest⟩
  | cons member members ih =>
      rw [List.flatMap_cons, List.append_assoc, List.cons_append] at hrest
      have hcomma := Cursor.takes_of_cons hrest (by decide)
      have htail := hfits.of_follows hcomma.follows.1
      obtain ⟨name, sign, start, stop, hquote, hkey, hcolon, hvalue, hstopFits, hstop⟩ :=
        member_printed (h member List.mem_cons_self) htail rfl
          (endsNumber_later memberChars members endsNumber_brace)
      obtain ⟨next, hmembers, hnext⟩ :=
        ih (fun other hother => h other (List.mem_cons_of_mem _ hother)) hstopFits hstop
      exact ⟨next, .more (hasMember_later hcomma hquote) hkey hcolon hvalue hmembers, hnext⟩

theorem members_printed {members : Members}
    (h : ∀ member ∈ members, ReadAs depth (compactChars member.2) member.2.canonical)
    (hfits : cursor.Fits) (hrest : cursor.rest = compactMembers members ++ '\x7d' :: rest) :
    ∃ next, MembersAt depth true cursor
      (members.map fun member => (member.1, member.2.canonical)) next ∧
        next.rest = '\x7d' :: rest := by
  cases members with
  | nil =>
      exact ⟨cursor, noMembers_printed hrest, hrest⟩
  | cons member members =>
      rw [compactMembers_cons, List.append_assoc] at hrest
      obtain ⟨name, sign, start, stop, hquote, hkey, hcolon, hvalue, hstopFits, hstop⟩ :=
        member_printed (h member List.mem_cons_self) hfits hrest
          (endsNumber_later memberChars members endsNumber_brace)
      obtain ⟨next, hmembers, hnext⟩ := laterMembers_printed
        (fun other hother => h other (List.mem_cons_of_mem _ hother)) hstopFits hstop
      exact ⟨next, .more (hasMember_first hquote) hkey hcolon hvalue hmembers, hnext⟩

/-! ## Whole texts -/

/-- A value that is kept exactly where it stands: no floating-point number, and no whole number that
is out of range. -/
def Exact (json : Json) : Prop := json.InRange ∧ ¬json.isReal

theorem array_readAs {items : List Json}
    (h : ∀ item ∈ items, ReadAs (depth + 1) (compactChars item) item.canonical) :
    ReadAs (depth + 2) (compactChars (.array items)) (canonical (.array items)) := by
  rw [canonical_array]
  show ReadAs (depth + 2) ('[' :: (compactItems items ++ [']'])) _
  refine readAs_of_valueAt (by decide) ?_
  intro cursor rest hfits hrest _
  rw [List.append_assoc] at hrest
  have htail := hfits.of_follows (Advances.skipChar (skipChar_eq hrest))
  obtain ⟨last, hitems, hlast⟩ := items_printed h htail rfl
  have hclose := Cursor.takes_of_cons hlast (by decide)
  exact ⟨_, .list hrest (Nat.succ_pos _) hitems (closeList_of_takes hclose), rfl⟩

theorem object_readAs {members : Members}
    (h : ∀ member ∈ members, ReadAs (depth + 1) (compactChars member.2) member.2.canonical) :
    ReadAs (depth + 2) (compactChars (.object members)) (canonical (.object members)) := by
  rw [canonical_object]
  show ReadAs (depth + 2) ('\x7b' :: (compactMembers members ++ ['\x7d'])) _
  refine readAs_of_valueAt (by decide) ?_
  intro cursor rest hfits hrest _
  rw [List.append_assoc] at hrest
  have htail := hfits.of_follows (Advances.skipChar (skipChar_eq hrest))
  obtain ⟨last, hmembers, hlast⟩ := members_printed h htail rfl
  have hclose := Cursor.takes_of_cons hlast (by decide)
  exact ⟨_, .object hrest (Nat.succ_pos _) hmembers (closeObject_of_takes hclose), rfl⟩

/-- A printed value is read back wherever it stands. -/
theorem compactChars_readAs {json : Json} (hexact : Everywhere Exact json)
    (hdepth : depthOf json ≤ depth) : ReadAs (depth + 1) (compactChars json) json.canonical := by
  -- Each part lies one bracket deeper, so the depth that is left is general.
  induction hexact generalizing depth with
  | @intro json here inside ih =>
      cases json with
      | null => exact null_readAs
      | boolean value => exact boolean_readAs value
      | integer n => exact integer_readAs here.1.1 here.1.2
      | real x => exact absurd rfl here.2
      | string text => exact string_readAs text
      | array items =>
          cases depth with
          | zero => exact absurd hdepth (Nat.not_succ_le_zero _)
          | succ depth =>
              exact array_readAs fun item hitem =>
                ih item hitem (depthOf_le_iff.mp hdepth item hitem)
      | object members =>
          cases depth with
          | zero => exact absurd hdepth (Nat.not_succ_le_zero _)
          | succ depth =>
              exact object_readAs fun member hmember =>
                have hpart := List.mem_map_of_mem hmember
                ih member.2 hpart (depthOf_le_iff.mp hdepth member.2 hpart)

theorem start_compact (json : Json) :
    (Cursor.start json.compact).rest = compactChars json ++ [] := by
  rw [List.append_nil]
  exact String.toList_ofList

/-- The members of a printed object stand in its text in their order, with their values in canonical
form. -/
theorem membersAt_compact {members : Members}
    (hexact : ∀ member ∈ members, Everywhere Exact member.2)
    (hdepth : depthOf (.object members) < maxDepth) :
    ∃ rest last next, (Cursor.start (object members).compact).rest = '\x7b' :: rest ∧
      MembersAt (maxDepth - 1) true ((Cursor.start (object members).compact).tail '\x7b' rest)
        (members.map fun member => (member.1, member.2.canonical)) last ∧
      closeObject last = .ok () next ∧ next.rest = [] := by
  have hreads : ∀ member ∈ members,
      ReadAs (maxDepth - 1) (compactChars member.2) member.2.canonical := fun member hmember =>
    compactChars_readAs (hexact member hmember)
      (depthOf_le_iff.mp (Nat.le_of_lt_succ hdepth) member.2 (List.mem_map_of_mem hmember))
  have hrest : (Cursor.start (object members).compact).rest =
      '\x7b' :: (compactMembers members ++ '\x7d' :: []) := by
    rw [start_compact, List.append_nil]
    rfl
  have htail := (Cursor.fits_start _).of_follows (Advances.skipChar (skipChar_eq hrest))
  obtain ⟨last, hmembers, hlast⟩ := members_printed hreads htail rfl
  have hclose := Cursor.takes_of_cons hlast (by decide)
  exact ⟨_, last, _, hrest, hmembers, closeObject_of_takes hclose, rfl⟩

/-- The members of a printed object are listed in their order, with their values in canonical
form. -/
theorem writtenMembers_compact {members : Members}
    (hexact : ∀ member ∈ members, Everywhere Exact member.2)
    (hdepth : depthOf (.object members) < maxDepth) :
    writtenMembers (object members).compact =
      .ok (members.map fun member => (member.1, member.2.canonical)) := by
  obtain ⟨rest, last, next, hrest, hmembers, hclose, hend⟩ := membersAt_compact hexact hdepth
  have hstart := dropWhile_of_not hrest (p := isSpace) (by decide)
  rw [← hstart] at hrest hmembers
  refine writtenMembers_eq hrest hmembers hclose ?_
  show next.rest.dropWhile isSpace = []
  rw [hend, List.dropWhile_nil]

/-- A text that holds a printed value alone is read as that value. -/
theorem read_compact {json : Json} (hexact : Everywhere Exact json)
    (hdepth : depthOf json < maxDepth) : Json.read json.compact = .ok json.canonical := by
  have hreads : ReadAs maxDepth (compactChars json) json.canonical :=
    compactChars_readAs hexact (Nat.le_of_lt_succ hdepth)
  obtain ⟨next, hvalue, hnext⟩ := hreads (Cursor.fits_start _) (start_compact json) nofun
  refine readAll_eq_ok.mpr ⟨next, hvalue, ?_⟩
  show next.rest.dropWhile isSpace = []
  rw [hnext, List.dropWhile_nil]

end ToolDiscovery.Json
