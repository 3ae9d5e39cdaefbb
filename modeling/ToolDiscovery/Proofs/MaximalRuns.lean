import ToolDiscovery.Proofs.Tokens

/-!
# Tokens are maximal runs

`IsCut` says how a text consists of runs of certain characters and of the gaps between them. Every
text is cut in this way (`exists_isCut`), and the cut determines what `runs` lists
(`IsCut.runs_eq`). So the tokens of a text are what stands between the separators of its lower-case
form, and tokens stay what they are when they are read again: `tokenize_maximal_runs`.
-/

namespace ToolDiscovery.Text

variable {p : Char → Bool} {text first run gap back : List Char}
  {parts : List (List Char × List Char)}

/-! ## Cuts -/

/-- A text is a first gap and a list of runs, each with the gap behind it. All characters of runs
satisfy `p`, and none of a gap does. Only the gaps at the two ends of the text may be empty. -/
structure IsCut (p : Char → Bool) (text first : List Char)
    (parts : List (List Char × List Char)) : Prop where
  text_eq : text = first ++ parts.flatMap fun part => part.1 ++ part.2
  first_gap : ∀ c ∈ first, p c = false
  runs : ∀ part ∈ parts, part.1 ≠ [] ∧ ∀ c ∈ part.1, p c
  gaps : ∀ part ∈ parts, ∀ c ∈ part.2, p c = false
  apart : ∀ part ∈ parts.dropLast, part.2 ≠ []

/-- What comes after the first run is cut too, and starts with the gap behind the run. -/
theorem IsCut.tail (h : IsCut p text first ((run, gap) :: parts)) :
    IsCut p (gap ++ parts.flatMap fun part => part.1 ++ part.2) gap parts where
  text_eq := rfl
  first_gap := h.gaps _ List.mem_cons_self
  runs part hpart := h.runs part (List.mem_cons_of_mem _ hpart)
  gaps part hpart := h.gaps part (List.mem_cons_of_mem _ hpart)
  apart part hpart := by
    refine h.apart part ?_
    cases parts with
    | nil => cases hpart
    | cons next parts => exact List.mem_cons_of_mem _ hpart

section Cons

variable {c : Char}

/-- A character that belongs to no run makes the first gap longer. -/
theorem IsCut.cons_gap (h : IsCut p text first parts) (hc : p c = false) :
    IsCut p (c :: text) (c :: first) parts where
  text_eq := by rw [h.text_eq, List.cons_append]
  first_gap := List.forall_mem_cons.mpr ⟨hc, h.first_gap⟩
  runs := h.runs
  gaps := h.gaps
  apart := h.apart

/-- Right before a run, a character of runs makes it longer. -/
theorem IsCut.cons_run (h : IsCut p text [] ((run, gap) :: parts)) (hc : p c) :
    IsCut p (c :: text) [] ((c :: run, gap) :: parts) where
  text_eq := by
    rw [h.text_eq]
    rfl
  first_gap := nofun
  runs := by
    obtain ⟨hrun, hruns⟩ := List.forall_mem_cons.mp h.runs
    exact List.forall_mem_cons.mpr
      ⟨⟨List.cons_ne_nil _ _, List.forall_mem_cons.mpr ⟨hc, hrun.2⟩⟩, hruns⟩
  gaps := List.forall_mem_cons.mpr (List.forall_mem_cons.mp h.gaps)
  apart := by
    have hapart := h.apart
    cases parts with
    | nil => exact nofun
    | cons next parts =>
        rw [List.dropLast_cons_cons, List.forall_mem_cons] at hapart ⊢
        exact hapart

/-- Before a gap, or before nothing at all, a character of runs is a run of its own. -/
theorem IsCut.cons_single (h : IsCut p text first parts) (hc : p c)
    (hfirst : first = [] → parts = []) : IsCut p (c :: text) [] (([c], first) :: parts) where
  text_eq := by
    rw [h.text_eq]
    rfl
  first_gap := nofun
  runs := List.forall_mem_cons.mpr
    ⟨⟨List.cons_ne_nil _ _, List.forall_mem_singleton.mpr hc⟩, h.runs⟩
  gaps := List.forall_mem_cons.mpr ⟨h.first_gap, h.gaps⟩
  apart := by
    cases parts with
    | nil => exact nofun
    | cons next parts =>
        exact List.forall_mem_cons.mpr ⟨fun hnil => List.cons_ne_nil _ _ (hfirst hnil), h.apart⟩

end Cons

/-- Every text is cut. -/
theorem exists_isCut (p : Char → Bool) (text : List Char) :
    ∃ first parts, IsCut p text first parts := by
  induction text with
  | nil => exact ⟨[], [], rfl, nofun, nofun, nofun, nofun⟩
  | cons c text ih =>
      obtain ⟨first, parts, h⟩ := ih
      cases hc : p c with
      | false => exact ⟨c :: first, parts, h.cons_gap hc⟩
      | true =>
          cases first with
          | cons d first => exact ⟨[], _, h.cons_single hc nofun⟩
          | nil =>
              cases parts with
              | nil => exact ⟨[], _, h.cons_single hc fun _ => rfl⟩
              | cons part parts => exact ⟨[], _, h.cons_run hc⟩

/-! ## The runs of a cut -/

/-- A gap at the start has no runs. -/
theorem runs_gap_append (hgap : ∀ c ∈ gap, p c = false) : runs p (gap ++ back) = runs p back := by
  induction gap with
  | nil => rfl
  | cons c gap ih =>
      obtain ⟨hc, hmore⟩ := List.forall_mem_cons.mp hgap
      have hcons : runs p ([] ++ c :: (gap ++ back)) = runs p [] ++ runs p (gap ++ back) :=
        runs_append_cons hc
      exact hcons.trans (ih hmore)

/-- A gap separates what stands before it from what stands behind it. -/
theorem runs_append_gap (hne : gap ≠ []) (hgap : ∀ c ∈ gap, p c = false) :
    runs p (run ++ (gap ++ back)) = runs p run ++ runs p (gap ++ back) := by
  rw [runs_gap_append hgap]
  cases gap with
  | nil => exact absurd rfl hne
  | cons c gap =>
      obtain ⟨hc, hmore⟩ := List.forall_mem_cons.mp hgap
      rw [List.cons_append, runs_append_cons hc, runs_gap_append hmore]

/-- The runs of a text are those of its cut. -/
theorem IsCut.runs_eq (h : IsCut p text first parts) :
    Text.runs p text = parts.map fun part => part.1 := by
  induction parts generalizing text first with
  | nil =>
      rw [h.text_eq, runs_gap_append h.first_gap]
      rfl
  | cons part parts ih =>
      obtain ⟨run, gap⟩ := part
      obtain ⟨hne, hall⟩ := h.runs _ List.mem_cons_self
      rw [h.text_eq, runs_gap_append h.first_gap, List.flatMap_cons, List.append_assoc,
        List.map_cons, ← ih h.tail]
      by_cases hgap : gap = []
      · -- A run without a gap behind it is the last one.
        subst hgap
        cases parts with
        | nil =>
            rw [List.flatMap_nil, List.append_nil, List.append_nil, runs_of_all hne hall]
            rfl
        | cons next parts => exact absurd rfl (h.apart _ List.mem_cons_self)
      · rw [runs_append_gap hgap h.tail.first_gap, runs_of_all hne hall]
        rfl

/-- Tokens are the runs of word characters in a cut of the lower-case text. -/
theorem tokenize_eq_iff {text : String} {tokens : List String} :
    tokenize text = tokens ↔ ∃ first parts, IsCut isWordChar (lower text.toList) first parts ∧
      parts.map (fun part => String.ofList part.1) = tokens := by
  have htokens {first : List Char} {parts : List (List Char × List Char)}
      (h : IsCut isWordChar (lower text.toList) first parts) :
      tokenize text = parts.map fun part => String.ofList part.1 := by
    unfold tokenize
    rw [h.runs_eq, List.map_map]
    rfl
  constructor
  · rintro rfl
    obtain ⟨first, parts, hcut⟩ := exists_isCut isWordChar (lower text.toList)
    exact ⟨first, parts, hcut, (htokens hcut).symm⟩
  · rintro ⟨first, parts, hcut, rfl⟩
    exact htokens hcut

/-- Tokens that are joined by blanks are found again. -/
theorem tokenize_joined_tokens (text : String) :
    tokenize (" ".intercalate (tokenize text)) = tokenize text := by
  have hsame : (tokenize text).flatMap tokenize = (tokenize text).flatMap fun token => [token] :=
    List.flatMap_congr fun token htoken => tokenize_token htoken
  rw [tokenize_intercalate, hsame, List.flatMap_singleton']

/-- The tokens of a text are the maximal runs of word characters in its lower-case form: those that
stand between stretches of other characters of which only the first and the last may be empty. Each
token is its own only token, and tokens that are joined by blanks are found again. -/
theorem tokenize_maximal_runs (text : String) :
    (∀ tokens, tokenize text = tokens ↔
      ∃ first parts, IsCut isWordChar (lower text.toList) first parts ∧
        parts.map (fun part => String.ofList part.1) = tokens) ∧
    (∀ token ∈ tokenize text, tokenize token = [token]) ∧
    tokenize (" ".intercalate (tokenize text)) = tokenize text :=
  ⟨fun _ => tokenize_eq_iff, fun _ => tokenize_token, tokenize_joined_tokens text⟩

/-- A signature: its brackets, the colon, the arrow and the blanks separate tokens, and the Kelvin
sign is lower-cased to a Latin letter. -/
theorem tokenize_maximal_runs_signature :
    let text := "Read_File(path: &str) -> 300 \u212a!"
    tokenize text = ["read_file", "path", "str", "300", "k"] ∧
      (∃ first parts, IsCut isWordChar (lower text.toList) first parts ∧
        parts.map (fun part => String.ofList part.1) = tokenize text) ∧
      tokenize "k" = ["k"] ∧ tokenize "read_file path str 300 k" = tokenize text := by
  intro text
  have htokens : tokenize text = ["read_file", "path", "str", "300", "k"] := by decide +kernel
  have hmem : "k" ∈ tokenize text := by
    rw [htokens]
    decide
  have hjoined : " ".intercalate (tokenize text) = "read_file path str 300 k" := by
    rw [htokens]
    decide
  obtain ⟨hcut, hstable, hagain⟩ := tokenize_maximal_runs text
  rw [hjoined] at hagain
  exact ⟨htokens, (hcut _).mp rfl, hstable "k" hmem, hagain⟩

end ToolDiscovery.Text
