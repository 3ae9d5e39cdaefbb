import Mathlib.Data.List.Nodup
import ToolDiscovery.Proofs.StoredValues

/-!
# Written forms

A JSON text is a sequence of tokens with white space between them (`Spaced`). The tokens are
punctuation and lexemes, which are words and quoted texts; a `Form` says how they are grouped, with
the members of objects in the order in which they are written. `Form.Reordered` relates forms that
differ only in the order of members of objects without duplicate keys. Such forms denote the same
value (`Form.Reordered.json?_eq_some`), since an object that is made of members with different keys
has these members and no others (`ofMembers_eq_of_perm`).
-/

namespace ToolDiscovery.Json

/-! ## Objects of members with different keys -/

section Members

variable {key : String} {json : Json} {members others sorted : Members}

theorem insertMember_perm (h : key ∉ members.map (·.1)) :
    (insertMember key json members).Perm ((key, json) :: members) := by
  induction members with
  | nil => exact .refl _
  | cons member rest ih =>
      obtain ⟨other, value⟩ := member
      rw [List.map_cons, List.mem_cons, not_or] at h
      unfold insertMember
      split
      · exact .refl _
      · rw [if_neg h.1]
        exact ((ih h.2).cons _).trans (.swap _ _ _)

theorem foldl_insertMember_perm (h : ((members ++ sorted).map (·.1)).Nodup) :
    (members.foldl (fun sorted member => insertMember member.1 member.2 sorted) sorted).Perm
      (members ++ sorted) := by
  induction members generalizing sorted with
  | nil => exact .refl _
  | cons member members ih =>
      have hfresh : member.1 ∉ sorted.map (·.1) := by
        rw [List.cons_append, List.map_cons, List.nodup_cons, List.map_append] at h
        exact fun hmem => h.1 (List.mem_append_right _ hmem)
      have hinsert : (members ++ insertMember member.1 member.2 sorted).Perm
          (member :: members ++ sorted) :=
        ((insertMember_perm hfresh).append_left members).trans List.perm_middle
      exact (ih (((hinsert.map _).nodup_iff).mpr h)).trans hinsert

/-- An object that is made of members with different keys has these members. -/
theorem exists_ofMembers_perm (h : (members.map (·.1)).Nodup) :
    ∃ sorted, ofMembers members = object sorted ∧ sorted.Perm members ∧
      sorted.Pairwise (·.1 < ·.1) := by
  refine ⟨_, rfl, ?_, List.pairwise_map.mp (ordered_ofMembers members)⟩
  rw [← List.append_nil members] at h
  have hperm := foldl_insertMember_perm h
  rwa [List.append_nil] at hperm

/-- The order of members with different keys does not matter. -/
theorem ofMembers_eq_of_perm (hkeys : (members.map (·.1)).Nodup) (hperm : members.Perm others) :
    ofMembers members = ofMembers others := by
  obtain ⟨sorted, hsorted, hmembers, hascending⟩ := exists_ofMembers_perm hkeys
  obtain ⟨sorted', hsorted', hothers, hascending'⟩ :=
    exists_ofMembers_perm (((hperm.map _).nodup_iff).mp hkeys)
  have hsame : sorted = sorted' :=
    ((hmembers.trans hperm).trans hothers.symm).eq_of_pairwise
      (fun _ _ _ _ hlt hgt => absurd hgt (String.lt_asymm hlt)) hascending hascending'
  rw [hsorted, hsorted', hsame]

end Members

/-! ## Tokens -/

/-- A word ends before white space, punctuation and quotes. -/
def endsWord (c : Char) : Bool := isSpace c || c ∈ ['[', ']', '\x7b', '\x7d', ',', ':', '"']

/-- Characters that may stand between the quotes of a text. No quote among them ends the text, since
each one is the second character of an escape. -/
inductive Quotable : List Char → Prop where
  | nil : Quotable []
  | plain {c : Char} {rest : List Char} (hquote : c ≠ '"') (hbackslash : c ≠ '\\')
      (hrest : Quotable rest) : Quotable (c :: rest)
  | escape {rest : List Char} (c : Char) (hrest : Quotable rest) : Quotable ('\\' :: c :: rest)

theorem Quotable.of_plain {chars : List Char} (h : ∀ c ∈ chars, c ≠ '"' ∧ c ≠ '\\') :
    Quotable chars := by
  induction chars with
  | nil => exact .nil
  | cons c chars ih =>
      rw [List.forall_mem_cons] at h
      exact .plain h.1.1 h.1.2 (ih h.2)

/-- A token that is no punctuation: a word, or a text with its quotes. -/
structure Lexeme where
  /-- The characters of the token. -/
  chars : List Char
  /-- No character of a word ends words, and a text with quotes ends at its second one. -/
  shape : chars ≠ [] ∧ (∀ c ∈ chars, ¬endsWord c) ∨
    ∃ body, Quotable body ∧ chars = '"' :: (body ++ ['"'])

namespace Lexeme

/-- A word as a token. -/
def word (chars : List Char) (hne : chars ≠ []) (h : chars.all (!endsWord ·)) : Lexeme where
  chars := chars
  shape := .inl ⟨hne, by simpa using h⟩

/-- The token of a text that is written without escapes. -/
def quoted (chars : List Char) (h : chars.all fun c => c != '"' && c != '\\') : Lexeme where
  chars := '"' :: (chars ++ ['"'])
  shape := .inr ⟨chars, .of_plain (by simpa using h), rfl⟩

/-- The value that a token denotes. -/
def json? (lexeme : Lexeme) : Option Json := (Json.read (.ofList lexeme.chars)).toOption

/-- The text that a token denotes. -/
def text? (lexeme : Lexeme) : Option String :=
  match lexeme.json? with
  | some (.string text) => some text
  | _ => none

end Lexeme

/-- Tokens are written one after the other, with white space before, between and after them. -/
inductive Spaced : List (List Char) → List Char → Prop where
  | nil {spaces : List Char} (hspaces : ∀ c ∈ spaces, isSpace c) : Spaced [] spaces
  | cons {spaces token rest : List Char} {tokens : List (List Char)}
      (hspaces : ∀ c ∈ spaces, isSpace c) (hrest : Spaced tokens rest) :
      Spaced (token :: tokens) (spaces ++ (token ++ rest))

/-- Whether tokens are found in a text from left to right, with white space around them. -/
def isSpaced : List (List Char) → List Char → Bool
  | [], text => text.all isSpace
  | token :: tokens, text =>
    let text := text.dropWhile isSpace
    token.isPrefixOf text && isSpaced tokens (text.drop token.length)

theorem spaced_of_isSpaced {tokens : List (List Char)} {text : List Char}
    (h : isSpaced tokens text) : Spaced tokens text := by
  induction tokens generalizing text with
  | nil => exact .nil (List.all_eq_true.mp h)
  | cons token tokens ih =>
      simp only [isSpaced, Bool.and_eq_true, List.isPrefixOf_iff_prefix] at h
      obtain ⟨⟨rest, hrest⟩, hmore⟩ := h
      rw [← hrest, List.drop_left] at hmore
      have hspaces : ∀ c ∈ text.takeWhile isSpace, isSpace c :=
        List.all_eq_true.mp List.all_takeWhile
      have htext : text = text.takeWhile isSpace ++ (token ++ rest) := by
        rw [hrest, List.takeWhile_append_dropWhile]
      rw [htext]
      exact .cons hspaces (ih hmore)

/-! ## Forms -/

/-- How the tokens of a text are grouped by brackets. -/
inductive Form where
  /-- A single token. -/
  | scalar (lexeme : Lexeme)
  /-- The items of a list. -/
  | list (items : List Form)
  /-- The members of an object in the order in which they are written. -/
  | object (members : List (Lexeme × Form))

mutual

/-- The tokens of a form. -/
def Form.tokens : Form → List (List Char)
  | .scalar lexeme => [lexeme.chars]
  | .list items => ['['] :: ((itemTokens items).tail ++ [[']']])
  | .object members => ['\x7b'] :: ((memberTokens members).tail ++ [['\x7d']])

/-- The tokens of items, each with a comma before it. -/
def itemTokens : List Form → List (List Char)
  | [] => []
  | item :: rest => [','] :: (item.tokens ++ itemTokens rest)

/-- The tokens of members, each with a comma before it. -/
def memberTokens : List (Lexeme × Form) → List (List Char)
  | [] => []
  | (key, value) :: rest => [','] :: key.chars :: [':'] :: (value.tokens ++ memberTokens rest)

end

/-- A text is a form that is written with white space between the tokens. -/
def Form.Spells (form : Form) (text : String) : Prop := Spaced form.tokens text.toList

mutual

/-- The value that a form denotes. -/
def Form.json? : Form → Option Json
  | .scalar lexeme => lexeme.json?
  | .list items => (itemsJson? items).map .array
  | .object members => (membersJson? members).map ofMembers

/-- The values that items denote. -/
def itemsJson? : List Form → Option (List Json)
  | [] => some []
  | item :: rest => do return (← item.json?) :: (← itemsJson? rest)

/-- The members that are denoted, in the order in which they are written. -/
def membersJson? : List (Lexeme × Form) → Option Members
  | [] => some []
  | (key, value) :: rest => do return (← key.text?, ← value.json?) :: (← membersJson? rest)

end

theorem itemsJson?_cons {item : Form} {items : List Form} {jsons : List Json} :
    itemsJson? (item :: items) = some jsons ↔
      ∃ json rest, item.json? = some json ∧ itemsJson? items = some rest ∧
        jsons = json :: rest := by
  simp only [itemsJson?, Option.bind_eq_bind, Option.bind_eq_some_iff, Option.pure_def,
    Option.some.injEq]
  constructor
  · rintro ⟨json, hjson, rest, hrest, rfl⟩
    exact ⟨json, rest, hjson, hrest, rfl⟩
  · rintro ⟨json, rest, hjson, hrest, rfl⟩
    exact ⟨json, hjson, rest, hrest, rfl⟩

theorem membersJson?_cons {key : Lexeme} {value : Form} {members : List (Lexeme × Form)}
    {read : Members} :
    membersJson? ((key, value) :: members) = some read ↔
      ∃ text json rest, key.text? = some text ∧ value.json? = some json ∧
        membersJson? members = some rest ∧ read = (text, json) :: rest := by
  simp only [membersJson?, Option.bind_eq_bind, Option.bind_eq_some_iff, Option.pure_def,
    Option.some.injEq]
  constructor
  · rintro ⟨text, htext, json, hjson, rest, hrest, rfl⟩
    exact ⟨text, json, rest, htext, hjson, hrest, rfl⟩
  · rintro ⟨text, json, rest, htext, hjson, hrest, rfl⟩
    exact ⟨text, htext, json, hjson, rest, hrest, rfl⟩

/-! ## The order of members -/

/-- Two forms differ in the order of members, at any depth, of objects without duplicate keys. -/
inductive Form.Reordered : Form → Form → Prop where
  | refl (form : Form) : Form.Reordered form form
  | trans {form middle other : Form} (h : Form.Reordered form middle)
      (h' : Form.Reordered middle other) : Form.Reordered form other
  | item {item other : Form} (before after : List Form) (h : Form.Reordered item other) :
      Form.Reordered (.list (before ++ item :: after)) (.list (before ++ other :: after))
  | value {value other : Form} (before after : List (Lexeme × Form)) (key : Lexeme)
      (h : Form.Reordered value other) :
      Form.Reordered (.object (before ++ (key, value) :: after))
        (.object (before ++ (key, other) :: after))
  | members {members others : List (Lexeme × Form)} (hperm : members.Perm others)
      (hkeys : (members.map fun member => member.1.text?).Nodup) :
      Form.Reordered (.object members) (.object others)

/-- Two texts differ in white space between tokens and in the order of members of objects without
duplicate keys. -/
def Respelled (text other : String) : Prop :=
  ∃ form otherForm : Form,
    form.Spells text ∧ otherForm.Spells other ∧ form.Reordered otherForm

section Denotation

variable {item value other : Form} {members others : List (Lexeme × Form)} {read : Members}

/-- An item may be replaced by one that denotes the same value. -/
theorem itemsJson?_replace (h : ∀ json, item.json? = some json → other.json? = some json)
    (before after : List Form) {jsons : List Json}
    (hitems : itemsJson? (before ++ item :: after) = some jsons) :
    itemsJson? (before ++ other :: after) = some jsons := by
  induction before generalizing jsons with
  | nil =>
      obtain ⟨json, rest, hjson, hrest, rfl⟩ := itemsJson?_cons.mp hitems
      exact itemsJson?_cons.mpr ⟨json, rest, h json hjson, hrest, rfl⟩
  | cons first before ih =>
      obtain ⟨json, rest, hjson, hrest, rfl⟩ := itemsJson?_cons.mp hitems
      exact itemsJson?_cons.mpr ⟨json, rest, hjson, ih hrest, rfl⟩

/-- The value of a member may be replaced by one that denotes the same value. -/
theorem membersJson?_replace (h : ∀ json, value.json? = some json → other.json? = some json)
    (before after : List (Lexeme × Form)) (key : Lexeme)
    (hmembers : membersJson? (before ++ (key, value) :: after) = some read) :
    membersJson? (before ++ (key, other) :: after) = some read := by
  induction before generalizing read with
  | nil =>
      obtain ⟨text, json, rest, htext, hjson, hrest, rfl⟩ := membersJson?_cons.mp hmembers
      exact membersJson?_cons.mpr ⟨text, json, rest, htext, h json hjson, hrest, rfl⟩
  | cons first before ih =>
      obtain ⟨text, json, rest, htext, hjson, hrest, rfl⟩ := membersJson?_cons.mp hmembers
      exact membersJson?_cons.mpr ⟨text, json, rest, htext, hjson, ih hrest, rfl⟩

theorem membersJson?_keys (h : membersJson? members = some read) :
    members.map (fun member => member.1.text?) = read.map fun member => some member.1 := by
  induction members generalizing read with
  | nil =>
      cases h
      rfl
  | cons member members ih =>
      obtain ⟨text, json, rest, htext, -, hrest, rfl⟩ := membersJson?_cons.mp h
      rw [List.map_cons, List.map_cons, ih hrest, htext]

/-- Members that are written in another order are denoted in another order. -/
theorem membersJson?_perm (hperm : members.Perm others) (h : membersJson? members = some read) :
    ∃ otherRead, membersJson? others = some otherRead ∧ read.Perm otherRead := by
  induction hperm generalizing read with
  | nil => exact ⟨read, h, .refl _⟩
  | cons member hperm ih =>
      obtain ⟨text, json, rest, htext, hjson, hrest, rfl⟩ := membersJson?_cons.mp h
      obtain ⟨otherRest, hother, hsame⟩ := ih hrest
      exact ⟨_, membersJson?_cons.mpr ⟨text, json, otherRest, htext, hjson, hother, rfl⟩,
        hsame.cons _⟩
  | swap first second members =>
      obtain ⟨text, json, _, htext, hjson, hbehind, rfl⟩ := membersJson?_cons.mp h
      obtain ⟨text', json', rest, htext', hjson', hrest, rfl⟩ := membersJson?_cons.mp hbehind
      exact ⟨_, membersJson?_cons.mpr ⟨text', json', _, htext', hjson',
        membersJson?_cons.mpr ⟨text, json, rest, htext, hjson, hrest, rfl⟩, rfl⟩, .swap _ _ _⟩
  | trans _ _ ih ih' =>
      obtain ⟨middleRead, hmiddle, hperm⟩ := ih h
      obtain ⟨otherRead, hother, hperm'⟩ := ih' hmiddle
      exact ⟨otherRead, hother, hperm.trans hperm'⟩

/-- Forms that differ in the order of members denote the same value. -/
theorem Form.Reordered.json?_eq_some {form other : Form} {json : Json} (h : form.Reordered other)
    (hjson : form.json? = some json) : other.json? = some json := by
  induction h generalizing json with
  | refl => exact hjson
  | trans _ _ ih ih' => exact ih' (ih hjson)
  | item before after _ ih =>
      obtain ⟨jsons, hitems, rfl⟩ := Option.map_eq_some_iff.mp hjson
      exact Option.map_eq_some_iff.mpr
        ⟨jsons, itemsJson?_replace (fun _ => ih) before after hitems, rfl⟩
  | value before after key _ ih =>
      obtain ⟨read, hmembers, rfl⟩ := Option.map_eq_some_iff.mp hjson
      exact Option.map_eq_some_iff.mpr
        ⟨read, membersJson?_replace (fun _ => ih) before after key hmembers, rfl⟩
  | members hperm hkeys =>
      obtain ⟨read, hmembers, rfl⟩ := Option.map_eq_some_iff.mp hjson
      obtain ⟨otherRead, hothers, hsame⟩ := membersJson?_perm hperm hmembers
      have hnodup : (read.map (·.1)).Nodup := by
        rw [membersJson?_keys hmembers] at hkeys
        exact List.Nodup.of_map some (by rwa [List.map_map])
      exact Option.map_eq_some_iff.mpr
        ⟨otherRead, hothers, (ofMembers_eq_of_perm hnodup hsame).symm⟩

end Denotation

end ToolDiscovery.Json
