import ToolDiscovery.Proofs.RespelledTexts

/-!
# Every JSON text spells a form

What is read from a text is spelled there: `exists_form_of_read`. So each text that is read is a
respelling of itself (`Respelled.refl`), and what is said of respelled texts is said of all that are
read.
-/

namespace ToolDiscovery.Json

variable {cursor next last : Cursor} {c : Char}

/-! ## What is taken between quotes -/

theorem Quotable.append {chars more : List Char} (h : Quotable chars) (hmore : Quotable more) :
    Quotable (chars ++ more) := by
  induction h with
  | nil => exact hmore
  | plain hquote hbackslash _ ih => exact .plain hquote hbackslash ih
  | escape c _ ih => exact .escape c ih

theorem taken_hexEscape {n : Nat} (h : hexEscape cursor = .ok n next) :
    ∃ taken, Quotable taken ∧ cursor.rest = taken ++ next.rest := by
  unfold hexEscape at h
  simp only at h
  split at h
  · cases h
  · split at h
    · rename_i hdigits
      cases h
      refine ⟨cursor.rest.take 4, .of_plain fun c hc => ?_, (List.take_append_drop 4 _).symm⟩
      have hdigit := isSome_of_mapM hdigits c hc
      constructor
      · rintro rfl
        cases hdigit
      · rintro rfl
        cases hdigit
    · cases h

theorem taken_expectInPair (h : expectInPair c cursor = .ok () next) :
    cursor.rest = c :: next.rest := by
  obtain ⟨c?, _, hpeek, hcase⟩ := bind_eq_ok.mp h
  obtain ⟨rfl, hhead⟩ := of_peek? hpeek
  cases c? with
  | none => exact absurd hcase failHere_ne_ok
  | some d =>
      obtain ⟨rest, hrest⟩ := List.head?_eq_some_iff.mp hhead
      dsimp only at hcase
      split at hcase
      · rename_i hsame
        rw [skipChar_eq hrest] at hcase
        cases hcase
        exact hsame ▸ hrest
      · exact absurd hcase failNext_ne_ok

theorem taken_unicodeEscape {meant : Char} (h : unicodeEscape cursor = .ok meant next) :
    ∃ taken, Quotable taken ∧ cursor.rest = taken ++ next.rest := by
  obtain ⟨number, middle, hhex, hrest⟩ := bind_eq_ok.mp h
  obtain ⟨taken, htaken, hcursor⟩ := taken_hexEscape hhex
  split at hrest
  · exact absurd hrest failHere_ne_ok
  · split at hrest
    · obtain ⟨_, _, hbackslash, hrest⟩ := bind_eq_ok.mp hrest
      obtain ⟨_, _, hletter, hrest⟩ := bind_eq_ok.mp hrest
      obtain ⟨second, _, hhex, hrest⟩ := bind_eq_ok.mp hrest
      obtain ⟨more, hmore, hbehind⟩ := taken_hexEscape hhex
      have hpair := (taken_expectInPair hbackslash).trans
        (congrArg _ ((taken_expectInPair hletter).trans (congrArg _ hbehind)))
      split at hrest
      · obtain ⟨-, rfl⟩ := pure_eq_ok.mp hrest
        refine ⟨taken ++ '\\' :: 'u' :: more, htaken.append (.escape 'u' hmore), ?_⟩
        rw [hcursor, hpair, List.append_assoc, List.cons_append, List.cons_append]
      · exact absurd hrest failHere_ne_ok
    · obtain ⟨-, rfl⟩ := pure_eq_ok.mp hrest
      exact ⟨taken, htaken, hcursor⟩

theorem taken_escape {meant : Char} (h : escape cursor = .ok meant next) :
    ∃ c taken, Quotable taken ∧ cursor.rest = c :: (taken ++ next.rest) := by
  obtain ⟨c?, _, hpeek, hcase⟩ := bind_eq_ok.mp h
  obtain ⟨rfl, hhead⟩ := of_peek? hpeek
  split at hcase
  · exact absurd hcase failHere_ne_ok
  · obtain ⟨rest, hrest⟩ := List.head?_eq_some_iff.mp hhead
    rw [run_bind _ (skipChar_eq hrest)] at hcase
    obtain ⟨taken, htaken, hbehind⟩ := taken_unicodeEscape hcase
    exact ⟨'u', taken, htaken, hrest.trans (congrArg _ hbehind)⟩
  · rename_i c _
    obtain ⟨rest, hrest⟩ := List.head?_eq_some_iff.mp hhead
    cases hmeant : simpleEscape? c with
    | none =>
        rw [hmeant] at hcase
        exact absurd hcase failNext_ne_ok
    | some letter =>
        simp only [hmeant] at hcase
        rw [run_bind _ (skipChar_eq hrest)] at hcase
        obtain ⟨-, rfl⟩ := pure_eq_ok.mp hcase
        exact ⟨c, [], .nil, hrest⟩

/-- A text that is read ends at its closing quote. -/
theorem taken_stringAfter {fuel : Nat} {read : List Char} {text : String}
    (h : stringAfter fuel read cursor = .ok text next) :
    ∃ body, Quotable body ∧ cursor.rest = body ++ '"' :: next.rest := by
  induction fuel generalizing cursor read with
  | zero => exact absurd h failHere_ne_ok
  | succ fuel ih =>
      have hplain : Quotable (cursor.rest.takeWhile isPlain) := by
        refine .of_plain fun c hc => ?_
        have hall := List.all_eq_true.mp (List.all_takeWhile) c hc
        simp only [isPlain, Bool.and_eq_true, bne_iff_ne] at hall
        exact hall.1
      have hsplit : cursor.rest =
          cursor.rest.takeWhile isPlain ++ (cursor.dropWhile isPlain).rest :=
        List.takeWhile_append_dropWhile.symm
      unfold stringAfter at h
      rw [run_bind _ (takeWhile_eq _ _)] at h
      obtain ⟨c?, _, hpeek, hcase⟩ := bind_eq_ok.mp h
      obtain ⟨rfl, hhead⟩ := of_peek? hpeek
      split at hcase
      · exact absurd hcase failHere_ne_ok
      · obtain ⟨rest, hrest⟩ := List.head?_eq_some_iff.mp hhead
        rw [run_bind _ (skipChar_eq hrest)] at hcase
        obtain ⟨-, rfl⟩ := pure_eq_ok.mp hcase
        exact ⟨_, hplain, hsplit.trans (congrArg _ hrest)⟩
      · obtain ⟨rest, hrest⟩ := List.head?_eq_some_iff.mp hhead
        rw [run_bind _ (skipChar_eq hrest)] at hcase
        obtain ⟨meant, middle, hescape, hmore⟩ := bind_eq_ok.mp hcase
        obtain ⟨c, taken, htaken, hbehind⟩ := taken_escape hescape
        obtain ⟨body, hbody, hend⟩ := ih hmore
        have hescaped : rest = c :: (taken ++ (body ++ '"' :: next.rest)) := by
          rw [← hend]
          exact hbehind
        refine ⟨_, hplain.append (.escape c (htaken.append hbody)), ?_⟩
        rw [List.append_assoc, List.cons_append, List.cons_append, List.append_assoc, ← hescaped,
          ← hrest]
        exact hsplit
      · exact absurd hcase failNext_ne_ok

/-! ## Tokens -/

namespace Lexeme

/-- A text that is read is a token with its quotes. -/
theorem exists_of_stringBody {text : String} (h : stringBody cursor = .ok text next) :
    ∃ lexeme : Lexeme, '"' :: cursor.rest = lexeme.chars ++ next.rest := by
  obtain ⟨fuel, _, hbound, hread⟩ := bind_eq_ok.mp h
  cases hbound
  obtain ⟨body, hbody, hrest⟩ := taken_stringAfter hread
  refine ⟨⟨'"' :: (body ++ ['"']), .inr ⟨body, hbody, rfl⟩⟩, ?_⟩
  rw [hrest, List.cons_append, List.append_assoc, List.singleton_append]

/-- The longest word that starts with a character. -/
theorem exists_word (hc : ¬endsWord c) (rest : List Char) :
    ∃ lexeme : Lexeme, ∃ behind, c :: rest = lexeme.chars ++ behind ∧
      ∀ d ∈ behind.head?, endsWord d := by
  have hfirst : (!endsWord c) = true := by simpa using hc
  have hword : (c :: rest).takeWhile (!endsWord ·) ≠ [] := by
    rw [List.takeWhile_cons_of_pos (p := (!endsWord ·)) hfirst]
    exact List.cons_ne_nil _ _
  refine ⟨.word _ hword List.all_takeWhile, (c :: rest).dropWhile (!endsWord ·),
    by rw [word, List.takeWhile_append_dropWhile], fun d hd => ?_⟩
  have hnot := List.head?_dropWhile_not (!endsWord ·) (c :: rest)
  rw [show ((c :: rest).dropWhile (!endsWord ·)).head? = some d from hd] at hnot
  simpa using hnot

/-- A value without brackets starts with a quote or a character of a word. -/
theorem head_of_scalar {json : Json} (h : scalar c cursor = .ok json next) (hc : endsWord c) :
    c = '"' := by
  unfold scalar at h
  split at h
  · cases hc
  · cases hc
  · cases hc
  · rfl
  · cases hc
  · rw [if_neg (not_isDigit_of_endsWord hc)] at h
    exact absurd h failNext_ne_ok

/-- What is read without brackets is a token, provided that no word goes on behind it. -/
theorem exists_of_scalar {rest : List Char} {json : Json} (hfits : cursor.Fits)
    (hrest : cursor.rest = c :: rest) (h : scalar c cursor = .ok json next)
    (hnext : next.Ended) : ∃ lexeme : Lexeme, cursor.rest = lexeme.chars ++ next.rest := by
  by_cases hquote : c = '"'
  · subst hquote
    have hscalar : scalar '"' = (skipChar >>= fun _ => stringBody >>= fun text =>
      pure (.string text)) := rfl
    rw [hscalar, run_bind _ (skipChar_eq hrest)] at h
    obtain ⟨text, _, hbody, hpure⟩ := bind_eq_ok.mp h
    obtain ⟨-, rfl⟩ := pure_eq_ok.mp hpure
    obtain ⟨lexeme, hlexeme⟩ := exists_of_stringBody hbody
    exact ⟨lexeme, hrest.trans hlexeme⟩
  · have hc : ¬endsWord c := fun hends => hquote (head_of_scalar h hends)
    obtain ⟨lexeme, behind, hsplit, hends⟩ := exists_word hc rest
    rw [← hrest] at hsplit
    obtain ⟨hbehind, -⟩ :=
      of_scalar hfits hsplit hends (by rw [hrest, List.head?_cons]) h hnext
    exact ⟨lexeme, hbehind ▸ hsplit⟩

end Lexeme

/-! ## Forms -/

section Forms

variable {depth : Nat} {first : Bool} {jsons : List Json} {read : Members}
  {tokens more : List (List Char)} {text : List Char}

/-- White space before the first token does not matter. -/
theorem Spaced.of_dropWhile (h : Spaced tokens (text.dropWhile isSpace)) : Spaced tokens text := by
  have hspaces : ∀ c ∈ text.takeWhile isSpace, isSpace c := List.all_eq_true.mp List.all_takeWhile
  rw [← List.takeWhile_append_dropWhile (p := isSpace) (l := text)]
  generalize text.takeWhile isSpace = spaces at hspaces
  generalize text.dropWhile isSpace = behind at h
  cases h with
  | nil hbehind => exact .nil (List.forall_mem_append.mpr ⟨hspaces, hbehind⟩)
  | cons hbehind hrest =>
      rw [← List.append_assoc]
      exact .cons (List.forall_mem_append.mpr ⟨hspaces, hbehind⟩) hrest

theorem Spaced.of_token {token : List Char} (h : Spaced tokens next.rest)
    (hrest : (cursor.dropWhile isSpace).rest = token ++ next.rest) :
    Spaced (token :: tokens) cursor.rest := by
  refine .of_dropWhile ?_
  rw [show cursor.rest.dropWhile isSpace = _ from hrest]
  show Spaced _ ([] ++ (token ++ next.rest))
  exact .cons nofun h

theorem Spaced.of_takes (h : Spaced tokens next.rest) (htakes : cursor.Takes c next) :
    Spaced ([c] :: tokens) cursor.rest := by
  obtain ⟨rest, hrest, rfl⟩ := htakes
  exact h.of_token hrest

/-- Values at a depth are spelled by forms. -/
def HasForms (depth : Nat) : Prop :=
  ∀ ⦃cursor json next⦄, Cursor.Fits cursor → value depth cursor = .ok json next → next.Ended →
    ∃ form : Form, ∀ more, Spaced more next.rest → Spaced (form.tokens ++ more) cursor.rest

theorem hasForms_items (hforms : HasForms depth) (hfits : cursor.Fits)
    (h : ItemsAt depth first cursor jsons last) (hclose : closeList last = .ok () next) :
    ∃ items, ∀ more, Spaced more next.rest →
      Spaced (remainingTokens first (itemTokens items) ++ [']'] :: more) cursor.rest := by
  induction h with
  | @done first cursor last hdone =>
      obtain rfl := of_hasItem hdone
      refine ⟨[], fun more hmore => ?_⟩
      have hend := hmore.of_takes (Cursor.Takes.dropWhile_iff.mp (takes_of_closeList hclose))
      cases first <;> exact hend
  | @more first cursor start stop last json jsons hitem hvalue hrest ih =>
      have hstart := hfits.of_follows (Advances.hasItem first hitem)
      obtain ⟨item, hspelled⟩ := hforms hstart hvalue (hrest.ended hclose)
      obtain ⟨items, hitems⟩ := ih (hstart.of_follows (value_takes hvalue).1) hclose
      refine ⟨item :: items, fun more hmore => ?_⟩
      have hbehind := hspelled _ (hitems more hmore)
      rw [← List.append_assoc] at hbehind
      obtain ⟨-, -, -, hwhere⟩ := of_hasItem hitem
      cases first with
      | true =>
          obtain rfl : start = cursor.dropWhile isSpace := hwhere
          exact hbehind.of_dropWhile
      | false =>
          obtain ⟨middle, hcomma, rfl⟩ := hwhere
          exact hbehind.of_dropWhile.of_takes hcomma

theorem hasForms_members (hforms : HasForms depth) (hfits : cursor.Fits)
    (h : MembersAt depth first cursor read last) (hclose : closeObject last = .ok () next) :
    ∃ members, ∀ more, Spaced more next.rest →
      Spaced (remainingTokens first (memberTokens members) ++ ['\x7d'] :: more) cursor.rest := by
  induction h with
  | @done first cursor last hdone =>
      obtain rfl := of_hasMember hdone
      refine ⟨[], fun more hmore => ?_⟩
      have hend := hmore.of_takes (Cursor.Takes.dropWhile_iff.mp (takes_of_closeObject hclose))
      cases first <;> exact hend
  | @more first cursor name sign start stop last key json read hmember hkey hcolon hvalue hrest
      ih =>
      have hstart := hfits.of_follows ((Advances.colon hcolon).trans
        ((Advances.stringBody hkey).trans (Advances.hasMember first hmember)))
      obtain ⟨value, hspelled⟩ := hforms hstart hvalue (hrest.ended hclose)
      obtain ⟨members, hmembers⟩ := ih (hstart.of_follows (value_takes hvalue).1) hclose
      obtain ⟨lexeme, hlexeme⟩ := Lexeme.exists_of_stringBody hkey
      refine ⟨(lexeme, value) :: members, fun more hmore => ?_⟩
      have hvalueSpelled := hspelled _ (hmembers more hmore)
      rw [← List.append_assoc] at hvalueSpelled
      have hbehind := hvalueSpelled.of_takes (takes_of_colon hcolon)
      have hkeySpelled {front : Cursor} (hquote : front.Takes '"' name) :
          Spaced (lexeme.chars :: [':'] :: (value.tokens ++ memberTokens members ++
            ['\x7d'] :: more)) front.rest := by
        obtain ⟨rest, hrest, rfl⟩ := hquote
        exact hbehind.of_token (hrest.trans hlexeme)
      have hwhere := of_hasMember hmember
      cases first with
      | true => exact hkeySpelled hwhere
      | false =>
          obtain ⟨middle, hcomma, hquote⟩ := hwhere
          exact (hkeySpelled hquote).of_takes hcomma

/-- A value that is read is spelled by a form where it is read. -/
theorem hasForms (depth : Nat) : HasForms depth := by
  -- Inside of brackets one bracket less is left.
  induction depth with
  | zero => exact fun _ _ _ _ h _ => absurd h failNext_ne_ok
  | succ depth ih =>
      intro cursor json next hfits h hnext
      have hat := valueAt_of_ok hfits h
      obtain ⟨c, rest, hrest, -⟩ := hat.starts
      have htakes : cursor.Takes c ((cursor.dropWhile isSpace).tail c rest) := ⟨rest, hrest, rfl⟩
      have hfront := hfits.of_follows htakes.follows.1
      by_cases hlist : c = '['
      · subst hlist
        obtain ⟨jsons, last, rfl, hitems, hclose⟩ := hat.items_of_takes htakes
        obtain ⟨items, hspelled⟩ := hasForms_items ih hfront hitems hclose
        refine ⟨.list items, fun more hmore => ?_⟩
        rw [Form.tokens, List.cons_append, List.append_assoc]
        exact (hspelled more hmore).of_takes htakes
      · by_cases hobject : c = '\x7b'
        · subst hobject
          obtain ⟨read, last, rfl, hmembers, hclose⟩ := hat.members_of_takes htakes
          obtain ⟨members, hspelled⟩ := hasForms_members ih hfront hmembers hclose
          refine ⟨.object members, fun more hmore => ?_⟩
          rw [Form.tokens, List.cons_append, List.append_assoc]
          exact (hspelled more hmore).of_takes htakes
        · rw [value_eq_scalar hrest hlist hobject] at h
          obtain ⟨lexeme, hlexeme⟩ :=
            Lexeme.exists_of_scalar (hfits.of_follows (dropWhile_follows _ _)) hrest h hnext
          exact ⟨.scalar lexeme, fun more hmore => hmore.of_token hlexeme⟩

end Forms

/-! ## Whole texts -/

/-- A text that is read spells a form. -/
theorem exists_form_of_read {text : String} (h : (Json.read text).isOk) :
    ∃ form : Form, form.Spells text := by
  obtain ⟨json, hread⟩ := exists_of_isOk h
  obtain ⟨next, hvalue, hend⟩ := readAll_eq_ok.mp hread
  obtain ⟨form, hspelled⟩ :=
    hasForms maxDepth (Cursor.fits_start text) hvalue (Cursor.ended_of_end hend)
  have hnothing : Spaced [] next.rest := by
    refine .of_dropWhile ?_
    rw [show next.rest.dropWhile isSpace = [] from hend]
    exact .nil nofun
  have hspells := hspelled [] hnothing
  rw [List.append_nil] at hspells
  exact ⟨form, hspells⟩

/-- A text that is read is a respelling of itself. -/
theorem Respelled.refl {text : String} (h : (Json.read text).isOk) : Respelled text text := by
  obtain ⟨form, hspells⟩ := exists_form_of_read h
  exact ⟨form, form, hspells, hspells, .refl form⟩

end ToolDiscovery.Json
