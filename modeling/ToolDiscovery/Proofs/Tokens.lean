import ToolDiscovery.Catalog.Index
import ToolDiscovery.Proofs.CaseMappings

/-!
# Tokens of joined texts

Texts that are joined by blanks have the tokens of all of them: a blank neither belongs to a word
nor lets the lower-casing of one side look at the other (`Text.tokenize_intercalate`). A token is
its own only token, because what has been lower-cased stays as it is (`Text.tokenize_token`). So the
tokens of the document of a tool are those of its texts: `IndexEntry.tokenize_document`.
-/

namespace ToolDiscovery

namespace Text

variable {c d : Char} {text front back before run : List Char}

/-! ## Lower-casing twice -/

/-- No run of the lower-case mapping moves the character. -/
def IsLower (c : Char) : Prop := ∀ run ∈ CaseRun.lower, ¬ run.covers c.toNat

theorem isLower_ofNat {n : Nat} (h : n.isValidChar) :
    IsLower (Char.ofNat (CaseRun.apply CaseRun.lower n)) := by
  unfold IsLower
  rw [toNat_ofNat (CaseRun.isMapping_lower.isValidChar_apply h)]
  exact CaseRun.isMapping_lower.not_covers_apply n

theorem IsLower.ne_of_covers (h : IsLower c)
    (hcovers : CaseRun.lower.any (·.covers d.toNat)) : c ≠ d := by
  rintro rfl
  obtain ⟨run, hmem, hrun⟩ := List.any_eq_true.mp hcovers
  exact h run hmem hrun

theorem IsLower.ne_sigma (h : IsLower c) : c ≠ 'Σ' := h.ne_of_covers (by decide +kernel)

/-- A lower-case character stays as it is. -/
theorem IsLower.lowerChar_eq (h : IsLower c) : lowerChar c = [c] := by
  have hdotted : c ≠ 'İ' := h.ne_of_covers (by decide +kernel)
  rw [Text.lowerChar_eq hdotted, CaseRun.apply_of_not_covers h, Char.ofNat_toNat]

theorem isLower_of_mem_lowerChar (h : d ∈ lowerChar c) : IsLower d := by
  by_cases hdotted : c = 'İ'
  · subst hdotted
    have hd : d ∈ ['i', '\u0307'] := h
    have hi : 'i' = Char.ofNat (CaseRun.apply CaseRun.lower 'i'.toNat) := by decide +kernel
    have hdot : '\u0307' = Char.ofNat (CaseRun.apply CaseRun.lower 0x307) := by decide +kernel
    simp only [List.mem_cons, List.not_mem_nil, or_false] at hd
    rcases hd with rfl | rfl
    · rw [hi]
      exact isLower_ofNat (by decide)
    · rw [hdot]
      exact isLower_ofNat (by decide)
  · rw [Text.lowerChar_eq hdotted, List.mem_singleton] at h
    subst h
    exact isLower_ofNat c.valid

theorem isLower_lowerSigma (before after : List Char) : IsLower (lowerSigma before after) := by
  have hfinal : 'ς' = Char.ofNat (CaseRun.apply CaseRun.lower 'ς'.toNat) := by decide +kernel
  have hinner : 'σ' = Char.ofNat (CaseRun.apply CaseRun.lower 'σ'.toNat) := by decide +kernel
  unfold lowerSigma
  split
  · rw [hfinal]
    exact isLower_ofNat (by decide)
  · rw [hinner]
    exact isLower_ofNat (by decide)

/-- A lower-cased text has only lower-case characters. -/
theorem isLower_of_mem_lower (h : d ∈ lower text) : IsLower d := by
  suffices hafter : ∀ before, d ∈ lowerAfter before text → IsLower d from hafter [] h
  clear h
  induction text with
  | nil =>
      intro before h
      cases h
  | cons c rest ih =>
      intro before h
      rw [lowerAfter] at h
      by_cases hsigma : c = 'Σ'
      · rw [if_pos hsigma, List.mem_cons] at h
        rcases h with rfl | h
        · exact isLower_lowerSigma before rest
        · exact ih _ h
      · rw [if_neg hsigma, List.mem_append] at h
        rcases h with h | h
        · exact isLower_of_mem_lowerChar h
        · exact ih _ h

theorem lower_of_isLower (h : ∀ c ∈ text, IsLower c) : lower text = text := by
  suffices hafter : ∀ before, lowerAfter before text = text from hafter []
  induction text with
  | nil => exact fun before => rfl
  | cons c rest ih =>
      intro before
      obtain ⟨hc, hrest⟩ := List.forall_mem_cons.mp h
      rw [lowerAfter, if_neg hc.ne_sigma, hc.lowerChar_eq, ih hrest]
      rfl

/-! ## Lower-casing on both sides of a blank -/

/-- A blank ends the look for a cased letter. -/
theorem startsCased_append_blank (text far : List Char) :
    startsCased (text ++ ' ' :: far) = startsCased text := by
  have hignored : isCaseIgnorable ' ' = false := by decide
  have hcased : isCased ' ' = false := by decide
  unfold startsCased
  induction text with
  | nil => simp [hignored, hcased]
  | cons c rest ih =>
      rw [List.cons_append, List.dropWhile_cons, List.dropWhile_cons]
      cases isCaseIgnorable c with
      | true => exact ih
      | false => rfl

/-- What comes before a blank does not matter behind it. -/
theorem lowerAfter_blank (before far text : List Char) :
    lowerAfter (before ++ ' ' :: far) text = lowerAfter before text := by
  induction text generalizing before with
  | nil => rfl
  | cons c rest ih =>
      rw [lowerAfter, lowerAfter, lowerSigma, startsCased_append_blank, ← List.cons_append, ih]
      rfl

/-- The two sides of a blank are lower-cased each for itself. -/
theorem lower_append_blank (front back : List Char) :
    lower (front ++ ' ' :: back) = lower front ++ ' ' :: lower back := by
  suffices hafter : ∀ before, lowerAfter before (front ++ ' ' :: back) =
      lowerAfter before front ++ ' ' :: lower back from hafter []
  induction front with
  | nil =>
      intro before
      have hblank : lowerChar ' ' = [' '] := by decide
      show (if ' ' = 'Σ' then _ else lowerChar ' ' ++ lowerAfter (' ' :: before) back) = _
      rw [if_neg (by decide), hblank]
      exact congrArg (' ' :: ·) (lowerAfter_blank [] before back)
  | cons c rest ih =>
      intro before
      rw [List.cons_append, lowerAfter, lowerAfter, lowerSigma, startsCased_append_blank, ih]
      split <;> simp [lowerSigma]

/-! ## Runs -/

theorem runs_of_all {p : Char → Bool} (hne : text ≠ []) (h : ∀ c ∈ text, p c) :
    runs p text = [text] := by
  have hsplit : splitRuns p text = (text, []) := by
    clear hne
    induction text with
    | nil => rfl
    | cons c rest ih =>
        obtain ⟨hc, hrest⟩ := List.forall_mem_cons.mp h
        rw [splitRuns_cons_of_pos hc, ih hrest]
  unfold runs pushRun
  rw [hsplit]
  simp [hne]

theorem mem_pushRun {later : List (List Char)} :
    run ∈ pushRun front later ↔ run = front ∧ front ≠ [] ∨ run ∈ later := by
  unfold pushRun
  cases front with
  | nil => simp
  | cons c rest => simp

/-- The first run and the later ones consist of characters of the text that satisfy `p`. -/
theorem splitRuns_spec (p : Char → Bool) (text : List Char) :
    (∀ c ∈ (splitRuns p text).1, p c ∧ c ∈ text) ∧
      ∀ run ∈ (splitRuns p text).2, run ≠ [] ∧ ∀ c ∈ run, p c ∧ c ∈ text := by
  induction text with
  | nil => simp
  | cons c rest ih =>
      obtain ⟨hfirst, hlater⟩ := ih
      cases hc : p c with
      | true =>
          rw [splitRuns_cons_of_pos hc]
          refine ⟨fun d hd => ?_, fun run hrun => ⟨(hlater run hrun).1, fun d hd => ?_⟩⟩
          · rcases List.mem_cons.mp hd with rfl | hd
            · exact ⟨hc, List.mem_cons_self⟩
            · exact ⟨(hfirst d hd).1, List.mem_cons_of_mem _ (hfirst d hd).2⟩
          · have hpart := (hlater run hrun).2 d hd
            exact ⟨hpart.1, List.mem_cons_of_mem _ hpart.2⟩
      | false =>
          rw [splitRuns_cons_of_neg hc]
          refine ⟨fun d hd => absurd hd List.not_mem_nil, fun run hrun => ?_⟩
          rcases mem_pushRun.mp hrun with ⟨rfl, hne⟩ | hrun
          · exact ⟨hne, fun d hd => ⟨(hfirst d hd).1, List.mem_cons_of_mem _ (hfirst d hd).2⟩⟩
          · obtain ⟨hne, hall⟩ := hlater run hrun
            exact ⟨hne, fun d hd => ⟨(hall d hd).1, List.mem_cons_of_mem _ (hall d hd).2⟩⟩

/-- A run is a part of the text, and not empty. -/
theorem of_mem_runs {p : Char → Bool} (h : run ∈ runs p text) :
    run ≠ [] ∧ ∀ c ∈ run, p c ∧ c ∈ text := by
  obtain ⟨hfirst, hlater⟩ := splitRuns_spec p text
  rcases mem_pushRun.mp h with ⟨rfl, hne⟩ | h
  · exact ⟨hne, hfirst⟩
  · exact hlater run h

/-! ## Tokens -/

theorem tokenize_append_blank (front back : String) :
    tokenize (front ++ " " ++ back) = tokenize front ++ tokenize back := by
  have hblank : isWordChar ' ' = false := by decide
  unfold tokenize
  rw [String.toList_append, String.toList_append, List.append_assoc]
  show (runs isWordChar (lower (front.toList ++ ' ' :: back.toList))).map String.ofList = _
  rw [lower_append_blank, runs_append_cons hblank, List.map_append]

/-- Texts that are joined by blanks have the tokens of all of them. -/
theorem tokenize_intercalate (texts : List String) :
    tokenize (" ".intercalate texts) = texts.flatMap tokenize := by
  induction texts with
  | nil => rfl
  | cons text rest ih =>
      cases rest with
      | nil => simp
      | cons next rest =>
          rw [String.intercalate_cons_cons, tokenize_append_blank, ih]
          rfl

/-- Empty texts have no tokens. -/
theorem flatMap_tokenize_filter (texts : List String) :
    (texts.filter (· ≠ "")).flatMap tokenize = texts.flatMap tokenize := by
  induction texts with
  | nil => rfl
  | cons text rest ih =>
      rw [List.filter_cons, List.flatMap_cons, ← ih]
      by_cases hempty : text = ""
      · subst hempty
        rfl
      · rw [if_pos (by simp [hempty]), List.flatMap_cons]

/-- A token is its own only token. -/
theorem tokenize_token {token text : String} (h : token ∈ tokenize text) :
    tokenize token = [token] := by
  obtain ⟨run, hrun, rfl⟩ := List.mem_map.mp h
  obtain ⟨hne, hall⟩ := of_mem_runs hrun
  unfold tokenize
  rw [String.toList_ofList, lower_of_isLower fun c hc => isLower_of_mem_lower (hall c hc).2,
    runs_of_all hne fun c hc => (hall c hc).1]
  rfl

end Text

/-! ## Documents of tools -/

open Text (tokenize)

/-- The texts in which a tool is searched for besides its name: its description and, in ascending
order of the names, the names and the descriptions of its parameters. -/
def ToolDefinition.detailTexts (tool : ToolDefinition) : List String :=
  tool.description :: tool.parameterDocs.flatMap fun (name, description) => [name, description]

theorem IndexEntry.tokenize_parameterText (tool : ToolDefinition) :
    tokenize (ofDefinition tool).parameterText =
      (tool.parameterDocs.flatMap fun (name, description) => [name, description]).flatMap
        tokenize := by
  unfold ofDefinition
  rw [Text.tokenize_intercalate, Text.flatMap_tokenize_filter]

/-- The tokens of the document of a tool are those of its name, three times, and of its other
texts. -/
theorem IndexEntry.tokenize_document (tool : ToolDefinition) :
    tokenize (ofDefinition tool).document =
      (List.replicate nameWeight (tokenize tool.name)).flatten ++
        tool.detailTexts.flatMap tokenize := by
  have hdetails : ([(ofDefinition tool).description, (ofDefinition tool).parameterText].filter
      (· ≠ "")).flatMap tokenize = tool.detailTexts.flatMap tokenize := by
    rw [Text.flatMap_tokenize_filter, ToolDefinition.detailTexts, List.flatMap_cons,
      List.flatMap_cons, List.flatMap_nil, List.append_nil, tokenize_parameterText,
      List.flatMap_cons]
    rfl
  unfold document
  rw [Text.tokenize_intercalate, List.flatMap_append, hdetails, List.flatMap_replicate]
  rfl

theorem IndexEntry.mem_tokenize_document {tool : ToolDefinition} {token : String} :
    token ∈ tokenize (ofDefinition tool).document ↔
      ∃ text ∈ tool.name :: tool.detailTexts, token ∈ tokenize text := by
  rw [tokenize_document, List.mem_append, List.mem_flatten, List.mem_flatMap]
  simp [nameWeight]

end ToolDiscovery
