import Mathlib.Data.List.Basic
import ToolDiscovery.Proofs.Previews

/-!
# Collapsed texts

A collapsed text is a list of words with one space between neighbours, and its words are found again
(`Text.words_intercalate`). A start of it with an ellipsis behind it is of the same kind, wherever
it is cut: right behind a space, the ellipsis is a word of its own, and inside of a word it makes
that one longer (`Text.exists_words_of_cut`). So a preview is collapsed too, and a preview of it is
the preview itself: `Text.preview_outcome`.
-/

namespace ToolDiscovery.Text

variable {text word : List Char} {parts : List (List Char)} {most : Nat}

/-- A word is not empty and has no blank character. -/
def IsWord (word : List Char) : Prop := word ≠ [] ∧ ∀ c ∈ word, isBlank c = false

/-- The only blank characters of a text are spaces, each between two other characters. -/
def IsFlat (text : List Char) : Prop :=
  ∀ before c after, text = before ++ c :: after → isBlank c →
    c = ' ' ∧ (∃ d ∈ before.getLast?, isBlank d = false) ∧ ∃ d ∈ after.head?, isBlank d = false

theorem isWord_of_mem_words (h : word ∈ words text) : IsWord word := by
  obtain ⟨hne, hall⟩ := of_mem_runs h
  exact ⟨hne, fun c hc => by simpa using (hall c hc).1⟩

theorem IsWord.ellipsis : IsWord ellipsis := by
  refine ⟨List.cons_ne_nil _ _, fun c hc => ?_⟩
  rw [List.eq_of_mem_replicate (show c ∈ List.replicate 3 '.' from hc)]
  decide

/-! ## Words that are joined by spaces -/

/-- Words that are joined by spaces are found again. -/
theorem words_intercalate (h : ∀ part ∈ parts, IsWord part) :
    words (List.intercalate [' '] parts) = parts := by
  have hword (part : List Char) (hpart : IsWord part) : words part = [part] :=
    runs_of_all hpart.1 fun c hc => by simp [hpart.2 c hc]
  induction parts with
  | nil => rfl
  | cons first rest ih =>
      obtain ⟨hfirst, hrest⟩ := List.forall_mem_cons.mp h
      cases rest with
      | nil =>
          rw [List.intercalate_singleton]
          exact hword first hfirst
      | cons second others =>
          rw [List.intercalate_cons_cons, List.append_assoc, List.singleton_append]
          have hsplit : words (first ++ ' ' :: List.intercalate [' '] (second :: others)) =
              words first ++ words (List.intercalate [' '] (second :: others)) :=
            runs_append_cons (by decide)
          rw [hsplit, hword first hfirst, ih hrest, List.singleton_append]

theorem collapse_intercalate (h : ∀ part ∈ parts, IsWord part) :
    collapse (List.intercalate [' '] parts) = List.intercalate [' '] parts := by
  rw [collapse, words_intercalate h]

/-- Joined words start with a character that is not blank. -/
theorem head?_intercalate (hne : parts ≠ []) (h : ∀ part ∈ parts, IsWord part) :
    ∃ c ∈ (List.intercalate [' '] parts).head?, isBlank c = false := by
  cases parts with
  | nil => exact absurd rfl hne
  | cons first rest =>
      obtain ⟨hword, hall⟩ := h first List.mem_cons_self
      cases first with
      | nil => exact absurd rfl hword
      | cons c first =>
          refine ⟨c, ?_, hall c List.mem_cons_self⟩
          cases rest with
          | nil => simp
          | cons second others => simp [List.intercalate_cons_cons]

theorem IsWord.isFlat (h : IsWord word) : IsFlat word := by
  intro before c after hsplit hblank
  have hmem : c ∈ word := hsplit ▸ List.mem_append_right before List.mem_cons_self
  rw [h.2 c hmem] at hblank
  cases hblank

/-- A word, a space and a flat text that starts with no blank are flat together. -/
theorem IsFlat.cons_word {rest : List Char} (h : IsFlat rest) (hword : IsWord word)
    (hhead : ∃ d ∈ rest.head?, isBlank d = false) : IsFlat (word ++ ' ' :: rest) := by
  intro before c after hsplit hblank
  have hlast : ∃ d ∈ word.getLast?, isBlank d = false :=
    ⟨word.getLast hword.1, List.getLast?_eq_some_getLast hword.1,
      hword.2 _ (List.getLast_mem hword.1)⟩
  -- The blank stands behind the word, as its space or later, or else in the word, which has none.
  rcases List.append_eq_append_iff.mp hsplit with ⟨excess, rfl, hexcess⟩ |
    ⟨excess, hinside, hexcess⟩
  · cases excess with
    | nil =>
        cases hexcess
        rw [List.append_nil]
        exact ⟨rfl, hlast, hhead⟩
    | cons space front =>
        cases hexcess
        obtain ⟨hspace, ⟨d, hd, hfrontLast⟩, hnext⟩ := h front c after rfl hblank
        have hfront : front ≠ [] := by
          rintro rfl
          cases hd
        refine ⟨hspace, ⟨d, ?_, hfrontLast⟩, hnext⟩
        rwa [List.getLast?_append_of_ne_nil _ (List.cons_ne_nil _ _),
          List.getLast?_cons_of_ne_nil hfront]
  · cases excess with
    | nil =>
        cases hexcess
        rw [List.append_nil] at hinside
        exact ⟨rfl, hinside ▸ hlast, hhead⟩
    | cons d more =>
        cases hexcess
        have hmem : c ∈ word := hinside ▸ List.mem_append_right before List.mem_cons_self
        rw [hword.2 c hmem] at hblank
        cases hblank

theorem isFlat_intercalate (h : ∀ part ∈ parts, IsWord part) :
    IsFlat (List.intercalate [' '] parts) := by
  induction parts with
  | nil =>
      intro before c after hsplit
      simp at hsplit
  | cons first rest ih =>
      obtain ⟨hfirst, hrest⟩ := List.forall_mem_cons.mp h
      cases rest with
      | nil =>
          rw [List.intercalate_singleton]
          exact hfirst.isFlat
      | cons second others =>
          rw [List.intercalate_cons_cons, List.append_assoc, List.singleton_append]
          exact (ih hrest).cons_word hfirst (head?_intercalate (List.cons_ne_nil _ _) hrest)

/-! ## Cuts -/

/-- A start of joined words with an ellipsis behind it consists of joined words. -/
theorem exists_words_of_cut (h : ∀ part ∈ parts, IsWord part) (n : Nat) :
    ∃ cut, (∀ part ∈ cut, IsWord part) ∧
      (List.intercalate [' '] parts).take n ++ ellipsis = List.intercalate [' '] cut := by
  -- Behind a start of a word the ellipsis makes this word longer.
  have hstart {word : List Char} (hword : IsWord word) (n : Nat) :
      IsWord (word.take n ++ ellipsis) := by
    refine ⟨List.append_ne_nil_of_right_ne_nil _ IsWord.ellipsis.1, fun c hc => ?_⟩
    rcases List.mem_append.mp hc with hc | hc
    · exact hword.2 c (List.mem_of_mem_take hc)
    · exact IsWord.ellipsis.2 c hc
  have hsingle {word : List Char} (hword : IsWord word) (n : Nat) :
      ∃ cut, (∀ part ∈ cut, IsWord part) ∧
        word.take n ++ ellipsis = List.intercalate [' '] cut :=
    ⟨[word.take n ++ ellipsis], List.forall_mem_singleton.mpr (hstart hword n),
      List.intercalate_singleton.symm⟩
  induction parts generalizing n with
  | nil => exact ⟨[ellipsis], List.forall_mem_singleton.mpr .ellipsis, by simp⟩
  | cons first rest ih =>
      obtain ⟨hfirst, hrest⟩ := List.forall_mem_cons.mp h
      cases rest with
      | nil =>
          rw [List.intercalate_singleton]
          exact hsingle hfirst n
      | cons second others =>
          rw [List.intercalate_cons_cons, List.append_assoc, List.singleton_append]
          by_cases hinside : n ≤ first.length
          · rw [List.take_append_of_le_length hinside]
            exact hsingle hfirst n
          · obtain ⟨more, rfl⟩ : ∃ more, n = first.length + (more + 1) :=
              ⟨n - first.length - 1, by omega⟩
            obtain ⟨cut, hcut, hsame⟩ := ih hrest more
            have hne : cut ≠ [] := by
              rintro rfl
              exact List.append_ne_nil_of_right_ne_nil _ IsWord.ellipsis.1 hsame
            obtain ⟨next, others, rfl⟩ := List.exists_cons_of_ne_nil hne
            refine ⟨first :: next :: others, List.forall_mem_cons.mpr ⟨hfirst, hcut⟩, ?_⟩
            rw [List.take_length_add_append, List.take_succ_cons, List.intercalate_cons_cons,
              ← hsame]
            simp

/-- A preview consists of joined words. -/
theorem exists_words_of_preview (most : Nat) (text : List Char) :
    ∃ parts, (∀ part ∈ parts, IsWord part) ∧
      previewChars most text = List.intercalate [' '] parts := by
  have hwords : ∀ word ∈ words text, IsWord word := fun word => isWord_of_mem_words
  unfold previewChars
  by_cases hfits : (collapse text).length ≤ most
  · simp only [if_pos hfits]
    exact ⟨words text, hwords, rfl⟩
  · simp only [if_neg hfits]
    exact exists_words_of_cut hwords _

/-- A preview of a preview is the preview itself. -/
theorem previewChars_previewChars (hmost : ellipsis.length ≤ most) (text : List Char) :
    previewChars most (previewChars most text) = previewChars most text := by
  have hcollapse : collapse (previewChars most text) = previewChars most text := by
    obtain ⟨parts, hparts, hsame⟩ := exists_words_of_preview most text
    rw [hsame, collapse_intercalate hparts]
  have hfits := length_previewChars_le hmost text
  rw [previewChars, hcollapse]
  exact if_pos hfits

/-- The characters that end a line: line feed, vertical tab, form feed, carriage return, next line,
and the separators of lines and of paragraphs. -/
def lineEnds : List Char := ['\n', '\x0b', '\x0c', '\r', '\u0085', '\u2028', '\u2029']

/-- A preview is not longer than it may be. Its only blank characters are spaces, each between two
other characters, so that it has no line end. It is the text with its words joined by spaces if that
fits; otherwise the ellipsis takes the place of what does not fit beside it. A preview of it is the
preview itself. -/
theorem preview_outcome (hmost : 3 ≤ most) (text : String) :
    let flat := collapse text.toList
    let shown := (preview most text).toList
    words flat = words text.toList ∧
    shown.length ≤ most ∧ IsFlat shown ∧ (∀ c ∈ shown, c ∉ lineEnds) ∧
    (flat.length ≤ most → shown = flat) ∧
    (most < flat.length → shown = flat.take (most - 3) ++ ['.', '.', '.']) ∧
    preview most (preview most text) = preview most text := by
  intro flat shown
  have hshown : shown = previewChars most text.toList := String.toList_ofList
  obtain ⟨parts, hparts, hsame⟩ := exists_words_of_preview most text.toList
  refine ⟨words_intercalate fun word => isWord_of_mem_words, ?_, ?_, fun c hc hend => ?_, ?_, ?_,
    ?_⟩
  · rw [hshown]
    exact length_previewChars_le hmost text.toList
  · rw [hshown, hsame]
    exact isFlat_intercalate hparts
  · have hlines : lineEnds.all fun c => isBlank c && c != ' ' := by decide
    have hline := List.all_eq_true.mp hlines c hend
    rw [Bool.and_eq_true, bne_iff_ne] at hline
    exact hline.2 (eq_space_of_mem_preview hc hline.1)
  · intro hfits
    rw [hshown]
    exact if_pos hfits
  · intro hlong
    rw [hshown]
    exact if_neg (Nat.not_le_of_lt hlong)
  · have hagain : preview most (preview most text) = .ofList (previewChars most shown) := rfl
    rw [hagain, hshown, previewChars_previewChars hmost]
    rfl

/-- The cut falls behind a space, so that the ellipsis stands alone. The line separator counts as a
blank, and the preview is the same once more. -/
theorem preview_outcome_behind_space :
    let text := " one\u2028\u2028two  three\n"
    3 ≤ 11 ∧ preview 11 text = "one two ..." ∧ IsFlat (preview 11 text).toList ∧
      preview 11 (preview 11 text) = preview 11 text := by
  intro text
  have hmost : 3 ≤ 11 := by decide
  obtain ⟨-, -, hflat, -, -, -, hagain⟩ := preview_outcome hmost text
  exact ⟨hmost, by decide +kernel, hflat, hagain⟩

end ToolDiscovery.Text
