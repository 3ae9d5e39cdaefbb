import ToolDiscovery.Proofs.Lexemes

/-!
# Texts that spell one form

`Form.json?_of_read` shows that a text that spells a form is read as the value that the form
denotes, wherever white space stands between its tokens. With that, two texts that differ in white
space and in the order of members of objects without duplicate keys are read as the same value
(`Respelled.read_eq`).
-/

namespace ToolDiscovery.Json

variable {cursor next last : Cursor} {tokens more : List (List Char)} {text rest : List Char}
  {c : Char}

/-! ## Tokens in a text -/

namespace Spaced

/-- After white space the first token stands in the text, and behind it the others. -/
theorem exists_rest {token : List Char} (h : Spaced ((c :: token) :: tokens) text)
    (hc : ¬isSpace c) :
    ∃ rest, text.dropWhile isSpace = c :: (token ++ rest) ∧ Spaced tokens rest := by
  cases h with
  | @cons spaces _ rest _ hspaces hrest =>
      refine ⟨rest, ?_, hrest⟩
      rw [List.dropWhile_append_of_pos hspaces, List.cons_append, List.dropWhile_cons_of_neg hc]

/-- Punctuation that comes next is taken. -/
theorem takes (h : Spaced ([c] :: tokens) cursor.rest) (hc : ¬isSpace c) :
    ∃ next, cursor.Takes c next ∧ Spaced tokens next.rest := by
  obtain ⟨rest, hrest, htokens⟩ := h.exists_rest hc
  exact ⟨(cursor.dropWhile isSpace).tail c rest, ⟨rest, hrest, rfl⟩, htokens⟩

end Spaced

/-- Tokens that begin with punctuation, if there are any. -/
def Delimited (tokens : List (List Char)) : Prop :=
  ∀ token ∈ tokens.head?, ∃ c, token = [c] ∧ endsWord c

/-- A word ends before tokens that begin with punctuation, and before the white space in front of
them. -/
theorem Spaced.ended (h : Spaced tokens text) (htokens : Delimited tokens) :
    ∀ c ∈ text.head?, endsWord c := by
  cases h with
  | nil hspaces => exact fun c hc => endsWord_of_isSpace (hspaces c (List.mem_of_head? hc))
  | @cons spaces token rest tokens hspaces hrest =>
      obtain ⟨d, rfl, hd⟩ := htokens token rfl
      cases spaces with
      | nil =>
          rintro _ ⟨⟩
          exact hd
      | cons space spaces =>
          rintro _ ⟨⟩
          exact endsWord_of_isSpace (hspaces _ List.mem_cons_self)

theorem Cursor.Takes.ended (h : cursor.Takes c next) (hc : endsWord c) : cursor.Ended := by
  intro d hd
  by_cases hspace : isSpace d
  · exact endsWord_of_isSpace hspace
  · obtain ⟨rest, hrest⟩ := List.head?_eq_some_iff.mp hd
    have hhead := h.head
    rw [dropWhile_of_not hrest hspace, hd] at hhead
    cases hhead
    exact hc

theorem Cursor.ended_of_end (h : (cursor.dropWhile isSpace).rest = []) : cursor.Ended := by
  intro c hc
  by_cases hspace : isSpace c
  · exact endsWord_of_isSpace hspace
  · obtain ⟨rest, hrest⟩ := List.head?_eq_some_iff.mp hc
    rw [dropWhile_of_not hrest hspace, hrest] at h
    cases h

/-! ## Forms in a text -/

/-- A form starts with a bracket, a quote, or a character of a word. -/
theorem Form.exists_head (form : Form) :
    ∃ c token tokens, form.tokens = (c :: token) :: tokens ∧ ¬isSpace c ∧
      (endsWord c → c ∈ ['"', '[', '\x7b']) := by
  cases form with
  | scalar lexeme =>
      obtain ⟨c, behind, hchars, hspace, hc⟩ := lexeme.exists_head
      refine ⟨c, behind, [], by rw [tokens, hchars], hspace, fun h => ?_⟩
      rw [hc h]
      exact List.mem_cons_self
  | list items => exact ⟨'[', [], _, rfl, by decide, fun _ => by decide⟩
  | object members => exact ⟨'\x7b', [], _, rfl, by decide, fun _ => by decide⟩

/-- Where a form starts, no comma and no closing bracket is taken. -/
theorem Form.not_takes {form : Form} (h : Spaced (form.tokens ++ more) cursor.rest)
    (hc : endsWord c) (hother : c ∉ ['"', '[', '\x7b']) : ¬cursor.Takes c next := by
  intro htakes
  obtain ⟨d, token, tokens, htokens, hspace, hd⟩ := form.exists_head
  rw [htokens, List.cons_append] at h
  obtain ⟨rest, hrest, -⟩ := h.exists_rest hspace
  have hhead := htakes.head
  rw [show (cursor.dropWhile isSpace).rest = _ from hrest, List.head?_cons] at hhead
  cases hhead
  exact hother (hd hc)

theorem takes_of_colon (h : colon cursor = .ok () next) : cursor.Takes ':' next := by
  unfold colon at h
  obtain ⟨c?, start, hpeek, hcase⟩ := bind_eq_ok.mp h
  split at hcase
  · exact absurd hcase failHere_ne_ok
  · exact .of_skipChar hpeek rfl hcase
  · exact absurd hcase failNext_ne_ok

/-- Values at a depth that are spelled by forms are denoted by them. -/
def ReadsForms (depth : Nat) : Prop :=
  ∀ ⦃form cursor json next more⦄, Cursor.Fits cursor →
    Spaced (Form.tokens form ++ more) cursor.rest → Delimited more →
    value depth cursor = .ok json next → next.Ended →
      form.json? = some json ∧ Spaced more next.rest

section Brackets

variable {depth : Nat} {first : Bool} {jsons : List Json} {read : Members}

theorem delimited_items (items : List Form) (more : List (List Char)) :
    Delimited (itemTokens items ++ [']'] :: more) := by
  cases items with
  | nil =>
      rintro token ⟨⟩
      exact ⟨']', rfl, by decide⟩
  | cons item items =>
      rintro token ⟨⟩
      exact ⟨',', rfl, by decide⟩

theorem delimited_members (members : List (Lexeme × Form)) (more : List (List Char)) :
    Delimited (memberTokens members ++ ['\x7d'] :: more) := by
  cases members with
  | nil =>
      rintro token ⟨⟩
      exact ⟨'\x7d', rfl, by decide⟩
  | cons member members =>
      rintro token ⟨⟩
      exact ⟨',', rfl, by decide⟩

/-- An item ends where the next one or the end of the list follows. -/
theorem ItemsAt.ended (h : ItemsAt depth false cursor jsons last)
    (hclose : closeList last = .ok () next) : cursor.Ended := by
  cases h with
  | done hdone =>
      obtain rfl := of_hasItem hdone
      exact (Cursor.Takes.dropWhile_iff.mp (takes_of_closeList hclose)).ended (by decide)
  | more hitem =>
      obtain ⟨_, _, _, middle, hcomma, _⟩ := of_hasItem hitem
      exact hcomma.ended (by decide)

/-- A member ends where the next one or the end of the object follows. -/
theorem MembersAt.ended (h : MembersAt depth false cursor read last)
    (hclose : closeObject last = .ok () next) : cursor.Ended := by
  cases h with
  | done hdone =>
      obtain rfl := of_hasMember hdone
      exact (Cursor.Takes.dropWhile_iff.mp (takes_of_closeObject hclose)).ended (by decide)
  | more hmember =>
      obtain ⟨middle, hcomma, _⟩ := of_hasMember hmember
      exact hcomma.ended (by decide)

/-- The tokens of parts that are left between brackets. Only the first part has no comma before
it. -/
def remainingTokens : (first : Bool) → List (List Char) → List (List Char)
  | true, tokens => tokens.tail
  | false, tokens => tokens

/-- An item that is read is the one that is spelled next, at once or behind the comma. -/
theorem exists_item {item : Form} {items : List Form} {start : Cursor} (hfits : cursor.Fits)
    (hspaced : Spaced (remainingTokens first (itemTokens (item :: items)) ++ more) cursor.rest)
    (hitem : hasItem first cursor = .ok true start) :
    ∃ front : Cursor, front.Fits ∧ start = front.dropWhile isSpace ∧
      Spaced (item.tokens ++ (itemTokens items ++ more)) front.rest := by
  obtain ⟨_, -, -, hwhere⟩ := of_hasItem hitem
  rw [← List.append_assoc]
  cases first with
  | true => exact ⟨cursor, hfits, hwhere, hspaced⟩
  | false =>
      obtain ⟨middle, hcomma, hstart⟩ := hwhere
      obtain ⟨stop, htakes, hmore⟩ := hspaced.takes (by decide)
      obtain ⟨-, rfl⟩ := htakes.unique hcomma
      exact ⟨stop, hfits.of_follows hcomma.follows.1, hstart, hmore⟩

/-- Where an item is spelled the list does not end. -/
theorem not_closeList_of_item {item : Form} {items : List Form}
    (hspaced : Spaced (remainingTokens first (itemTokens (item :: items)) ++ more) cursor.rest) :
    ¬cursor.Takes ']' next := by
  cases first with
  | true =>
      have hitem : Spaced (item.tokens ++ (itemTokens items ++ more)) cursor.rest := by
        rw [← List.append_assoc]
        exact hspaced
      exact item.not_takes hitem (by decide) (by decide)
  | false =>
      obtain ⟨stop, hcomma, -⟩ := hspaced.takes (by decide)
      exact fun hend => absurd (hcomma.unique hend).1 (by decide)

/-- The items of a list are the values that the forms between its brackets denote. -/
theorem items_of_spaced (hforms : ReadsForms depth) {items : List Form} (hfits : cursor.Fits)
    (hitems : ItemsAt depth first cursor jsons last) (hclose : closeList last = .ok () next)
    (hspaced : Spaced (remainingTokens first (itemTokens items) ++ [']'] :: more) cursor.rest) :
    itemsJson? items = some jsons ∧ Spaced more next.rest := by
  induction items generalizing first cursor jsons with
  | nil =>
      have hspaced : Spaced ([']'] :: more) cursor.rest := by
        cases first <;> exact hspaced
      obtain ⟨stop, hbracket, hmore⟩ := hspaced.takes (by decide)
      cases hitems with
      | done hdone =>
          obtain rfl := of_hasItem hdone
          have hend := Cursor.Takes.dropWhile_iff.mp (takes_of_closeList hclose)
          obtain ⟨-, rfl⟩ := hbracket.unique hend
          exact ⟨rfl, hmore⟩
      | more hitem =>
          obtain ⟨c, hc, hhead, hwhere⟩ := of_hasItem hitem
          cases first with
          | true =>
              rw [show _ = cursor.dropWhile isSpace from hwhere, hbracket.head] at hhead
              exact absurd (Option.some.inj hhead).symm hc
          | false =>
              obtain ⟨middle, hcomma, -⟩ := hwhere
              exact absurd (hcomma.unique hbracket).1 (by decide)
  | cons item items ih =>
      cases hitems with
      | done hdone =>
          obtain rfl := of_hasItem hdone
          have hend := Cursor.Takes.dropWhile_iff.mp (takes_of_closeList hclose)
          exact absurd hend (not_closeList_of_item hspaced)
      | more hitem hvalue hrest =>
          obtain ⟨front, hfront, rfl, hspelled⟩ := exists_item hfits hspaced hitem
          have hread := value_dropWhile.mp hvalue
          obtain ⟨hjson, hbehind⟩ :=
            hforms hfront hspelled (delimited_items items more) hread (hrest.ended hclose)
          obtain ⟨hjsons, hmore⟩ :=
            ih (hfront.of_follows (value_takes hread).1) hrest hbehind
          exact ⟨itemsJson?_cons.mpr ⟨_, _, hjson, hjsons, rfl⟩, hmore⟩

/-- A member that is read is the one that is spelled next, at once or behind the comma. -/
theorem exists_member {key : Lexeme} {value : Form} {members : List (Lexeme × Form)}
    {name : Cursor} (hfits : cursor.Fits)
    (hspaced : Spaced (remainingTokens first (memberTokens ((key, value) :: members)) ++ more)
      cursor.rest)
    (hmember : hasMember first cursor = .ok true name) :
    ∃ front : Cursor, front.Fits ∧ front.Takes '"' name ∧
      Spaced (key.chars :: [':'] :: (value.tokens ++ (memberTokens members ++ more)))
        front.rest := by
  have hwhere := of_hasMember hmember
  rw [← List.append_assoc]
  cases first with
  | true => exact ⟨cursor, hfits, hwhere, hspaced⟩
  | false =>
      obtain ⟨middle, hcomma, hname⟩ := hwhere
      obtain ⟨stop, htakes, hmore⟩ := hspaced.takes (by decide)
      obtain ⟨-, rfl⟩ := htakes.unique hcomma
      exact ⟨stop, hfits.of_follows hcomma.follows.1, hname, hmore⟩

/-- Where a member is spelled the object does not end. -/
theorem not_closeObject_of_member {key : Lexeme} {value : Form} {members : List (Lexeme × Form)}
    (hspaced : Spaced (remainingTokens first (memberTokens ((key, value) :: members)) ++ more)
      cursor.rest) :
    ¬cursor.Takes '\x7d' next := by
  cases first with
  | true =>
      exact (Form.scalar key).not_takes hspaced (by decide) (by decide)
  | false =>
      obtain ⟨stop, hcomma, -⟩ := hspaced.takes (by decide)
      exact fun hend => absurd (hcomma.unique hend).1 (by decide)

/-- The key of a member is the text that its token denotes. -/
theorem key_of_spaced {key : Lexeme} {name sign start : Cursor} {read : String}
    (hfits : cursor.Fits) (hspaced : Spaced (key.chars :: [':'] :: more) cursor.rest)
    (hquote : cursor.Takes '"' name) (hkey : stringBody name = .ok read sign)
    (hcolon : colon sign = .ok () start) : key.text? = some read ∧ Spaced more start.rest := by
  obtain ⟨c, behind, hchars, hspace, -⟩ := key.exists_head
  rw [hchars] at hspaced
  obtain ⟨rest, hrest, hmore⟩ := hspaced.exists_rest hspace
  have hname : '"' :: name.rest = key.chars ++ rest := by
    obtain ⟨others, hothers, rfl⟩ := hquote
    rw [hchars, List.cons_append]
    exact hothers.symm.trans hrest
  obtain ⟨rfl, htext⟩ := Lexeme.text?_of_stringBody (hfits.of_follows hquote.follows.1) hname hkey
  obtain ⟨stop, htakes, hmore⟩ := hmore.takes (by decide)
  obtain ⟨-, rfl⟩ := htakes.unique (takes_of_colon hcolon)
  exact ⟨htext, hmore⟩

/-- The members of an object are those that the forms between its brackets denote. -/
theorem members_of_spaced (hforms : ReadsForms depth) {members : List (Lexeme × Form)}
    (hfits : cursor.Fits) (hmembers : MembersAt depth first cursor read last)
    (hclose : closeObject last = .ok () next)
    (hspaced : Spaced (remainingTokens first (memberTokens members) ++ ['\x7d'] :: more)
      cursor.rest) :
    membersJson? members = some read ∧ Spaced more next.rest := by
  induction members generalizing first cursor read with
  | nil =>
      have hspaced : Spaced (['\x7d'] :: more) cursor.rest := by
        cases first <;> exact hspaced
      obtain ⟨stop, hbracket, hmore⟩ := hspaced.takes (by decide)
      cases hmembers with
      | done hdone =>
          obtain rfl := of_hasMember hdone
          have hend := Cursor.Takes.dropWhile_iff.mp (takes_of_closeObject hclose)
          obtain ⟨-, rfl⟩ := hbracket.unique hend
          exact ⟨rfl, hmore⟩
      | more hmember =>
          have hwhere := of_hasMember hmember
          cases first with
          | true => exact absurd (hbracket.unique hwhere).1 (by decide)
          | false =>
              obtain ⟨middle, hcomma, -⟩ := hwhere
              exact absurd (hcomma.unique hbracket).1 (by decide)
  | cons member members ih =>
      obtain ⟨key, value⟩ := member
      cases hmembers with
      | done hdone =>
          obtain rfl := of_hasMember hdone
          have hend := Cursor.Takes.dropWhile_iff.mp (takes_of_closeObject hclose)
          exact absurd hend (not_closeObject_of_member hspaced)
      | more hmember hkey hcolon hvalue hrest =>
          obtain ⟨front, hfront, hquote, hspelled⟩ := exists_member hfits hspaced hmember
          obtain ⟨htext, hbehind⟩ := key_of_spaced hfront hspelled hquote hkey hcolon
          have hstart := hfront.of_follows ((Advances.colon hcolon).trans
            ((Advances.stringBody hkey).trans hquote.follows.1))
          obtain ⟨hjson, hbehind⟩ :=
            hforms hstart hbehind (delimited_members members more) hvalue (hrest.ended hclose)
          obtain ⟨hread, hmore⟩ :=
            ih (hstart.of_follows (value_takes hvalue).1) hrest hbehind
          exact ⟨membersJson?_cons.mpr ⟨_, _, _, htext, hjson, hread, rfl⟩, hmore⟩

end Brackets

theorem value_eq_scalar {depth : Nat} (hrest : (cursor.dropWhile isSpace).rest = c :: rest)
    (hlist : c ≠ '[') (hobject : c ≠ '\x7b') :
    value (depth + 1) cursor = scalar c (cursor.dropWhile isSpace) := by
  have hpeek : peekToken? cursor = .ok (some c) (cursor.dropWhile isSpace) := by
    rw [peekToken?_eq, hrest, List.head?_cons]
  unfold value
  rw [run_bind _ hpeek]
  generalize hsome : some c = c?
  split
  · cases hsome
  · exact absurd (Option.some.inj hsome) hlist
  · exact absurd (Option.some.inj hsome) hobject
  · cases hsome
    rfl

section ValueAt

variable {depth : Nat} {json : Json} {front : Cursor}

theorem ValueAt.starts_of_takes (h : ValueAt depth (cursor.dropWhile isSpace) json next)
    (htakes : cursor.Takes c front) : Starts c json := by
  obtain ⟨d, behind, hd, hstarts⟩ := h.starts
  obtain ⟨rest, hrest, -⟩ := htakes
  obtain ⟨rfl, -⟩ := List.cons.inj (hd.symm.trans hrest)
  exact hstarts

theorem ValueAt.items_of_takes (h : ValueAt depth (cursor.dropWhile isSpace) json next)
    (htakes : cursor.Takes '[' front) :
    ∃ items last, json = .array items ∧ ItemsAt depth true front items last ∧
      closeList last = .ok () next := by
  have hstarts := h.starts_of_takes htakes
  cases h with
  | list hrest hdepth hitems hclose =>
      obtain ⟨-, rfl⟩ := htakes.unique ⟨_, hrest, rfl⟩
      exact ⟨_, _, rfl, hitems, hclose⟩
  | null | yes | no | text => simp [Starts] at hstarts
  | object => simp [Starts, ofMembers] at hstarts
  | number _ _ hnumber =>
      cases hnumber with
      | integer | real => simp [Starts, isDigit] at hstarts

theorem ValueAt.members_of_takes (h : ValueAt depth (cursor.dropWhile isSpace) json next)
    (htakes : cursor.Takes '\x7b' front) :
    ∃ members last, json = .ofMembers members ∧ MembersAt depth true front members last ∧
      closeObject last = .ok () next := by
  obtain ⟨rest, members, last, hrest, -, hjson, hmembers, hclose⟩ :=
    h.members (h.starts_of_takes htakes)
  obtain ⟨-, rfl⟩ := htakes.unique ⟨_, hrest, rfl⟩
  exact ⟨members, last, hjson, hmembers, hclose⟩

end ValueAt

/-- A value is what the form denotes that is spelled where the value is read. -/
theorem readsForms (depth : Nat) : ReadsForms depth := by
  -- Inside of brackets one bracket less is left.
  induction depth with
  | zero => exact fun _ _ _ _ _ _ _ _ h _ => absurd h failNext_ne_ok
  | succ depth ih =>
      intro form cursor json next more hfits hspaced hmore h hnext
      cases form with
      | scalar lexeme =>
          obtain ⟨c, behind, hchars, hspace, hc⟩ := lexeme.exists_head
          rw [Form.tokens, hchars] at hspaced
          obtain ⟨rest, hrest, hbehind⟩ := hspaced.exists_rest hspace
          have hlist : c ≠ '[' := by
            rintro rfl
            exact absurd (hc (by decide)) (by decide)
          have hobject : c ≠ '\x7b' := by
            rintro rfl
            exact absurd (hc (by decide)) (by decide)
          have hlexeme : (cursor.dropWhile isSpace).rest = lexeme.chars ++ rest := by
            rw [hchars]
            exact hrest
          have hhead : (cursor.dropWhile isSpace).rest.head? = some c := by
            rw [hlexeme, hchars, List.cons_append, List.head?_cons]
          rw [value_eq_scalar hrest hlist hobject] at h
          obtain ⟨rfl, hjson⟩ := Lexeme.of_scalar (hfits.of_follows (dropWhile_follows _ _)) hlexeme
            (hbehind.ended hmore) hhead h hnext
          exact ⟨hjson, hbehind⟩
      | list items =>
          rw [Form.tokens, List.cons_append, List.append_assoc] at hspaced
          obtain ⟨front, htakes, hinside⟩ := hspaced.takes (by decide)
          obtain ⟨jsons, last, rfl, hitems, hclose⟩ := (valueAt_of_ok hfits h).items_of_takes htakes
          obtain ⟨hjsons, hbehind⟩ :=
            items_of_spaced ih (hfits.of_follows htakes.follows.1) hitems hclose hinside
          exact ⟨Option.map_eq_some_iff.mpr ⟨jsons, hjsons, rfl⟩, hbehind⟩
      | object members =>
          rw [Form.tokens, List.cons_append, List.append_assoc] at hspaced
          obtain ⟨front, htakes, hinside⟩ := hspaced.takes (by decide)
          obtain ⟨read, last, rfl, hmembers, hclose⟩ :=
            (valueAt_of_ok hfits h).members_of_takes htakes
          obtain ⟨hread, hbehind⟩ :=
            members_of_spaced ih (hfits.of_follows htakes.follows.1) hmembers hclose hinside
          exact ⟨Option.map_eq_some_iff.mpr ⟨read, hread, rfl⟩, hbehind⟩

/-! ## Whole texts -/

/-- A text that spells a form and is read has the value that the form denotes. -/
theorem Form.json?_of_read {form : Form} {text : String} {json : Json} (hspells : form.Spells text)
    (h : Json.read text = .ok json) : form.json? = some json := by
  obtain ⟨next, hvalue, hend⟩ := readAll_eq_ok.mp h
  have hnext := Cursor.ended_of_end hend
  have hspaced : Spaced (form.tokens ++ []) (Cursor.start text).rest := by
    rw [List.append_nil]
    exact hspells
  exact (readsForms maxDepth (Cursor.fits_start text) hspaced nofun hvalue hnext).1

theorem exists_of_isOk {α ε : Type} {result : Except ε α} (h : result.isOk) :
    ∃ value, result = .ok value := by
  cases result with
  | ok value => exact ⟨value, rfl⟩
  | error fault => cases h

/-- Texts that are read and differ only in white space between tokens and in the order of members of
objects without duplicate keys are read as the same value. -/
theorem Respelled.read_eq {text other : String} {json : Json} (h : Respelled text other)
    (hread : Json.read text = .ok json) (hother : (Json.read other).isOk) :
    Json.read other = .ok json := by
  obtain ⟨form, otherForm, hspells, hotherSpells, hreordered⟩ := h
  obtain ⟨otherJson, hotherRead⟩ := exists_of_isOk hother
  have hjson := hreordered.json?_eq_some (form.json?_of_read hspells hread)
  have hotherJson := otherForm.json?_of_read hotherSpells hotherRead
  rw [hotherRead, Option.some.inj (hotherJson.symm.trans hjson)]

end ToolDiscovery.Json
