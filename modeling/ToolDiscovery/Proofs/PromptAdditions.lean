import Mathlib.Data.List.Infix
import ToolDiscovery.Discovery.Prompt

/-!
# What is said about searching is said once

No end of `searchPrompt` but the whole is also a start of it, and it does not end with a line break.
So when it is put behind a system prompt that does not hold it, it cannot begin there before its own
place: `Text.eq_of_occurs_behind`. Applying it again changes nothing, and `extendPrompt_once` puts
together what comes of any number of applications.
-/

namespace ToolDiscovery

namespace Text

variable {part text joint : List Char}

theorem occursIn_iff : occursIn part text ↔ part <:+: text := by
  induction text with
  | nil => rw [occursIn, List.isEmpty_iff, List.infix_nil]
  | cons c rest ih =>
      rw [occursIn, Bool.or_eq_true, List.isPrefixOf_iff_prefix, ih, List.infix_cons_iff]

/-- No end of a text but the whole is also a start of it. -/
def Unbordered (text : List Char) : Prop := ∀ n < text.length, 0 < n → ¬ text.drop n <+: text

/-- A text whose last character does not stand in the joint does not reach into it. -/
theorem infix_of_infix_append (h : part <:+: text ++ joint)
    (hlast : ∀ c ∈ part.getLast?, c ∉ joint) : part <:+: text := by
  obtain ⟨before, after, hwhole⟩ := h
  rcases List.append_eq_append_iff.mp hwhole with ⟨rest, htext, -⟩ | ⟨excess, hexcess, hjoint⟩
  · exact ⟨before, rest, htext.symm⟩
  · by_cases hpart : part = []
    · rw [hpart]
      exact List.nil_infix
    · by_cases hnone : excess = []
      · rw [hnone, List.append_nil] at hexcess
        exact ⟨before, [], by rw [List.append_nil, hexcess]⟩
      · have hsame : part.getLast? = excess.getLast? := by
          rw [← List.getLast?_append_of_ne_nil before hpart, hexcess,
            List.getLast?_append_of_ne_nil text hnone]
        have hmem : excess.getLast hnone ∈ joint := by
          rw [hjoint]
          exact List.mem_append_left _ (List.getLast_mem hnone)
        exact absurd hmem (hlast _ (by rw [hsame]; exact List.getLast?_eq_some_getLast hnone))

/-- An unbordered text that is put behind another one begins nowhere before its own place, unless it
begins in the other one alone. -/
theorem eq_of_occurs_behind {place : Nat} (hborder : Unbordered part) (hne : part ≠ [])
    (hlast : ∀ c ∈ part.getLast?, c ∉ joint) (hnot : ¬ part <:+: text)
    (h : part <+: (text ++ joint ++ part).drop place) : place = (text ++ joint).length := by
  have hpos : 0 < part.length := List.length_pos_iff.mpr hne
  have hroom := h.length_le
  rw [List.length_drop, List.length_append] at hroom
  by_contra hother
  have hbefore : place < (text ++ joint).length := by omega
  have hfront : ((text ++ joint).drop place).length = (text ++ joint).length - place :=
    List.length_drop
  rw [List.drop_append_of_le_length (Nat.le_of_lt hbefore)] at h
  -- What begins there either ends before the own place or runs over it.
  rcases Nat.lt_or_ge ((text ++ joint).drop place).length part.length with hlong | hshort
  · obtain ⟨border, hsplit⟩ : (text ++ joint).drop place <+: part :=
      List.prefix_of_prefix_length_le (List.prefix_append _ _) h (Nat.le_of_lt hlong)
    have hend : part.drop ((text ++ joint).drop place).length = border := by
      rw [← hsplit, List.drop_left]
    have hagain : (text ++ joint).drop place ++ border <+: (text ++ joint).drop place ++ part :=
      hsplit.symm ▸ h
    refine hborder _ hlong (by omega) ?_
    rw [hend]
    exact (List.prefix_append_right_inj _).mp hagain
  · have hwithin : part <+: (text ++ joint).drop place :=
      List.prefix_of_prefix_length_le h (List.prefix_append _ _) hshort
    exact hnot (infix_of_infix_append
      (hwithin.isInfix.trans (List.drop_suffix place _).isInfix) hlast)

/-- A text that starts with a mark twice is unbordered if the mark stands nowhere else. -/
theorem unbordered_of_mark {mark c : Char} {rest : List Char} (hc : c ≠ mark)
    (hrest : mark ∉ rest) : Unbordered (mark :: mark :: c :: rest) := by
  intro n hn hpos hprefix
  match n with
  | 1 =>
      have hsecond := (List.cons_prefix_cons.mp hprefix).2
      exact hc (List.cons_prefix_cons.mp hsecond).1
  | 2 => exact hc (List.cons_prefix_cons.mp hprefix).1
  | n + 3 =>
      cases hdrop : rest.drop n with
      | nil =>
          have hlength := congrArg List.length hdrop
          rw [List.length_drop, List.length_nil] at hlength
          simp only [List.length_cons] at hn
          omega
      | cons d more =>
          have hstart : d :: more <+: mark :: mark :: c :: rest := hdrop ▸ hprefix
          have hmem : d ∈ rest := List.mem_of_mem_drop (hdrop ▸ List.mem_cons_self)
          exact hrest ((List.cons_prefix_cons.mp hstart).1 ▸ hmem)

end Text

/-! ## The prompt -/

variable {system addition : String}

/-- The prompt starts with the marks of its heading and has no others, and it ends with a full
stop. -/
theorem exists_searchPrompt_eq : ∃ rest, searchPrompt.toList = '#' :: '#' :: ' ' :: rest ∧
    '#' ∉ rest ∧ rest.getLast? = some '.' := by
  unfold searchPrompt
  simp only [String.toList_append]
  -- Each literal is the text of a list of characters.
  repeat rw [String.toList_ofList]
  exact ⟨_, rfl, by decide +kernel, by decide +kernel⟩

theorem unbordered_searchPrompt : Text.Unbordered searchPrompt.toList := by
  obtain ⟨rest, hrest, hmark, -⟩ := exists_searchPrompt_eq
  rw [hrest]
  exact Text.unbordered_of_mark (by decide) hmark

theorem getLast?_searchPrompt : searchPrompt.toList.getLast? = some '.' := by
  obtain ⟨rest, hrest, -, hlast⟩ := exists_searchPrompt_eq
  rw [hrest, ← hlast]
  exact List.getLast?_append_of_ne_nil ['#', '#', ' '] (by rintro rfl; cases hlast)

/-! ## Applications -/

theorem extendPrompt_of_held (h : addition.toList <:+: system.toList) :
    extendPrompt system (some addition) = system :=
  if_pos (Text.occursIn_iff.mpr h)

theorem extendPrompt_of_blank (h : ¬ addition.toList <:+: system.toList)
    (hblank : Text.isBlankText system) : extendPrompt system (some addition) = addition :=
  (if_neg (Text.occursIn_iff.not.mpr h)).trans (if_pos hblank)

theorem extendPrompt_of_not_blank (h : ¬ addition.toList <:+: system.toList)
    (hblank : ¬ Text.isBlankText system) :
    extendPrompt system (some addition) = system ++ "\n\n" ++ addition :=
  (if_neg (Text.occursIn_iff.not.mpr h)).trans (if_neg hblank)

/-- What has been added stands in the prompt. -/
theorem infix_extendPrompt (system addition : String) :
    addition.toList <:+: (extendPrompt system (some addition)).toList := by
  by_cases h : addition.toList <:+: system.toList
  · rwa [extendPrompt_of_held h]
  · by_cases hblank : Text.isBlankText system
    · rw [extendPrompt_of_blank h hblank]
    · rw [extendPrompt_of_not_blank h hblank, String.toList_append]
      exact (List.suffix_append _ _).isInfix

/-- The first application of an addition is the only one that can change the prompt. -/
theorem foldl_extendPrompt_of_held {additions : List (Option String)}
    (h : addition.toList <:+: system.toList)
    (honly : ∀ addition? ∈ additions, addition? = none ∨ addition? = some addition) :
    additions.foldl extendPrompt system = system := by
  induction additions with
  | nil => rfl
  | cons addition? additions ih =>
      obtain ⟨hfirst, hmore⟩ := List.forall_mem_cons.mp honly
      have hsame : extendPrompt system addition? = system := by
        rcases hfirst with rfl | rfl
        · rfl
        · exact extendPrompt_of_held h
      rw [List.foldl_cons, hsame]
      exact ih hmore

theorem foldl_extendPrompt {additions : List (Option String)}
    (honly : ∀ addition? ∈ additions, addition? = none ∨ addition? = some addition)
    (hmem : some addition ∈ additions) :
    additions.foldl extendPrompt system = extendPrompt system (some addition) := by
  induction additions with
  | nil => cases hmem
  | cons addition? additions ih =>
      obtain ⟨hfirst, hmore⟩ := List.forall_mem_cons.mp honly
      rw [List.foldl_cons]
      rcases hfirst with rfl | rfl
      · exact ih hmore ((List.mem_cons.mp hmem).resolve_left nofun)
      · exact foldl_extendPrompt_of_held (infix_extendPrompt system addition) hmore

/-- A prompt that is added to one without it stands in the result in one place. -/
theorem existsUnique_place (hnot : ¬ searchPrompt.toList <:+: system.toList) :
    ∃! place, searchPrompt.toList <+:
      (extendPrompt system (some searchPrompt)).toList.drop place := by
  have hne : searchPrompt.toList ≠ [] := by
    intro hnil
    have hlast := getLast?_searchPrompt
    rw [hnil] at hlast
    cases hlast
  by_cases hblank : Text.isBlankText system
  · rw [extendPrompt_of_blank hnot hblank]
    refine ⟨0, ?_, fun place hplace => ?_⟩
    · dsimp only
      rw [List.drop_zero]
    have hpos := List.length_pos_iff.mpr hne
    have hroom := hplace.length_le
    rw [List.length_drop] at hroom
    omega
  · have hjoint : ∀ c ∈ searchPrompt.toList.getLast?, c ∉ "\n\n".toList := by
      rw [getLast?_searchPrompt]
      rintro c ⟨⟩
      decide
    rw [extendPrompt_of_not_blank hnot hblank, String.toList_append, String.toList_append]
    refine ⟨(system.toList ++ "\n\n".toList).length, ?_, fun place hplace =>
      Text.eq_of_occurs_behind unbordered_searchPrompt hne hjoint hnot hplace⟩
    dsimp only
    rw [List.drop_left]

/-- Applied to a system prompt that does not hold it, once or more often and with applications of
nothing in between, the prompt stands in the result in exactly one place. The result starts with the
system prompt, unless that is blank, and is the result of the first application. A system prompt
that holds it stays as it is. The second application of any addition changes nothing, and the result
of the first one holds it. -/
theorem extendPrompt_once (system : String) :
    (∀ additions : List (Option String),
      (∀ addition? ∈ additions, addition? = none ∨ addition? = some searchPrompt) →
      (¬ searchPrompt.toList <:+: system.toList → some searchPrompt ∈ additions →
        let result := additions.foldl extendPrompt system
        (∃! place, searchPrompt.toList <+: result.toList.drop place) ∧
        ((∃ c ∈ system.toList, ¬ Text.isBlank c) → system.toList <+: result.toList) ∧
        result = extendPrompt system (some searchPrompt)) ∧
      (searchPrompt.toList <:+: system.toList → additions.foldl extendPrompt system = system)) ∧
    ∀ addition, extendPrompt (extendPrompt system (some addition)) (some addition) =
        extendPrompt system (some addition) ∧
      addition.toList <:+: (extendPrompt system (some addition)).toList := by
  refine ⟨fun additions honly => ⟨fun hnot hmem => ?_, fun h => ?_⟩, fun addition => ⟨?_, ?_⟩⟩
  · rw [foldl_extendPrompt honly hmem]
    refine ⟨existsUnique_place hnot, fun hwritten => ?_, rfl⟩
    have hblank : ¬ Text.isBlankText system := by
      simpa [Text.isBlankText] using hwritten
    rw [extendPrompt_of_not_blank hnot hblank, String.append_assoc, String.toList_append]
    exact List.prefix_append _ _
  · exact foldl_extendPrompt_of_held h honly
  · exact extendPrompt_of_held (infix_extendPrompt system addition)
  · exact infix_extendPrompt system addition

/-- The system prompt ends as the addition begins; still the addition is found in one place only,
which is its own. -/
theorem extendPrompt_once_overlapping :
    let system := "You are helpful!\n\n## Tool"
    let additions := [none, some searchPrompt, none, some searchPrompt]
    ¬ searchPrompt.toList <:+: system.toList ∧
      additions.foldl extendPrompt system = system ++ "\n\n" ++ searchPrompt ∧
      system.toList <+: (additions.foldl extendPrompt system).toList ∧
      ∃! place, searchPrompt.toList <+:
        (additions.foldl extendPrompt system).toList.drop place := by
  intro system additions
  have hnot : ¬ searchPrompt.toList <:+: system.toList := fun h =>
    absurd (h.subset (List.mem_of_getLast? getLast?_searchPrompt)) (by decide)
  have honly : ∀ addition? ∈ additions, addition? = none ∨ addition? = some searchPrompt := by
    simp [additions]
  obtain ⟨hplace, hstart, hresult⟩ :=
    ((extendPrompt_once system).1 additions honly).1 hnot (by simp [additions])
  refine ⟨hnot, hresult.trans (extendPrompt_of_not_blank hnot (by decide)), hstart ?_, hplace⟩
  exact ⟨'Y', by decide, by decide⟩

end ToolDiscovery
