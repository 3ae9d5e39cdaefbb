import Mathlib.Algebra.Order.BigOperators.Group.List
import Mathlib.Algebra.Order.Ring.Nat
import Mathlib.Data.List.SplitBy
import ToolDiscovery.Pattern.Space
import ToolDiscovery.Proofs.ClassRanges
import ToolDiscovery.Proofs.EscapedPatterns

/-!
# The space of matchers for texts

Laying out takes space step after step: `Build.Within` says that a step succeeds wherever a given
space is left and takes no more, and the steps add up (`Build.Within.bind`). A byte tree takes as
much as it has branches, so a character and its mates take little
(`Pattern.CodedClass.IsSmall.takes_build`), and a text takes that much for each of its characters
(`Pattern.Spells.takes_build`). For a text of at most 200 characters this is less than there is:
`Pattern.fits_spelled`.
-/

namespace ToolDiscovery.Pattern

/-! ## Parts that take a limited space -/

namespace Build

variable {α β : Type} {part : Build α} {space more : Nat} {good : α → Prop}

/-- A part can be laid out wherever that much space is left, takes no more, and has a good
result. -/
def Within (part : Build α) (space : Nat) (good : α → Prop) : Prop :=
  ∀ meter, meter.space + space ≤ maxSpace →
    ∃ result after, part meter = some (result, after) ∧ after.space ≤ meter.space + space ∧
      good result

/-- A part can be laid out wherever that much space is left, and takes no more. -/
abbrev Takes (part : Build α) (space : Nat) : Prop := part.Within space fun _ => True

theorem Within.mono (h : part.Within space good) (hle : space ≤ more) : part.Within more good := by
  intro meter hroom
  obtain ⟨result, after, hpart, hafter, hgood⟩ := h meter (by omega)
  exact ⟨result, after, hpart, by omega, hgood⟩

theorem within_pure {result : α} (h : good result) : (pure result : Build α).Within 0 good :=
  fun meter _ => ⟨result, meter, rfl, Nat.le_refl _, h⟩

theorem takes_pure (result : α) : (pure result : Build α).Takes 0 := within_pure trivial

theorem Within.bind {next : α → Build β} {goodNext : β → Prop} (h : part.Within space good)
    (hnext : ∀ result, good result → (next result).Within more goodNext) :
    (part >>= next).Within (space + more) goodNext := by
  intro meter hroom
  obtain ⟨result, after, hpart, hafter, hgood⟩ := h meter (by omega)
  obtain ⟨last, final, hlast, hfinal, hgoodNext⟩ := hnext result hgood after (by omega)
  refine ⟨last, final, ?_, by omega, hgoodNext⟩
  show andThen part next meter = some (last, final)
  rw [andThen, hpart]
  exact hlast

theorem Within.andThen {next : α → Build β} {goodNext : β → Prop} (h : part.Within space good)
    (hnext : ∀ result, (next result).Within more goodNext) :
    (part >>= next).Within (space + more) goodNext :=
  h.bind fun result _ => hnext result

theorem takes_charge (states ways : Nat) : (charge states ways).Takes (32 * states + ways) := by
  intro meter hroom
  have hspace : (⟨meter.states + states, meter.ways + ways⟩ : Meter).space =
      meter.space + (32 * states + ways) := by
    simp only [Meter.space]
    omega
  exact ⟨meter.states, _, if_pos (hspace ▸ hroom), Nat.le_of_eq hspace, trivial⟩

theorem takes_byteState (ranges : Nat) : (byteState ranges).Takes (32 + 8 * ranges) :=
  takes_charge 1 (8 * ranges)

theorem takes_choices (count : Nat) : (choices count).Takes (4 * count) := by
  intro meter hroom
  obtain ⟨state, after, hcharge, hafter, -⟩ := takes_charge 0 (4 * count) meter (by omega)
  refine ⟨(), after, ?_, by omega, trivial⟩
  rw [choices, hcharge]
  rfl

end Build

open Build (takes_charge takes_byteState takes_choices takes_pure within_pure)

/-! ## Trees of byte forms -/

/-- The number of all ranges in byte forms. -/
def formRanges (forms : List (List (Nat × Nat))) : Nat := (forms.map List.length).sum

mutual

/-- The number of all branches of a tree. -/
def ByteTree.size : ByteTree → Nat
  | node branches => sizes branches

/-- The number of some branches and of all branches behind them. -/
def ByteTree.sizes : List ((Nat × Nat) × ByteTree) → Nat
  | [] => 0
  | (_, tree) :: rest => 1 + tree.size + sizes rest

end

namespace ByteTree

variable {branches : List ((Nat × Nat) × ByteTree)} {forms : List (List (Nat × Nat))}

theorem length_le_sizes (branches : List ((Nat × Nat) × ByteTree)) :
    branches.length ≤ sizes branches := by
  induction branches with
  | nil => exact Nat.le_refl 0
  | cons branch rest ih =>
      rw [sizes, List.length_cons]
      omega

mutual

/-- A state with its ways out takes at most 40 bytes for each way. -/
theorem takes_build (target : Nat) (tree : ByteTree) (memory : Memory Ways) :
    (tree.build target memory).Takes (40 * tree.size) := by
  cases tree with
  | node branches =>
      cases branches with
      | nil => exact (takes_pure (target, memory)).mono (Nat.zero_le _)
      | cons branch rest =>
          have hways := within_buildWays target (branch :: rest) memory
          have hlength := length_le_sizes (branch :: rest)
          rw [build]
          · refine Build.Within.mono (hways.bind fun result hresult => ?_)
              (?_ : _ + (32 + 8 * (rest.length + 1)) ≤ _)
            · -- The state is remembered, or it is added with a way out for each branch.
              dsimp only
              split
              · exact (takes_pure _).mono (Nat.zero_le _)
              · refine ((takes_byteState _).andThen fun state => within_pure trivial).mono ?_
                rw [hresult, List.length_cons]
                omega
            · rw [size]
              rw [List.length_cons] at hlength ⊢
              omega
          · exact fun hnil => absurd hnil (List.cons_ne_nil branch rest)

theorem within_buildWays (target : Nat) (branches : List ((Nat × Nat) × ByteTree))
    (memory : Memory Ways) :
    (buildWays target branches memory).Within (40 * (sizes branches - branches.length))
      fun result => result.1.length = branches.length := by
  cases branches with
  | nil => exact within_pure rfl
  | cons branch rest =>
      obtain ⟨range, tree⟩ := branch
      have hlength := length_le_sizes rest
      rw [buildWays]
      refine Build.Within.mono ((takes_build target tree memory).andThen fun first =>
        (within_buildWays target rest first.2).bind fun later hlater =>
          within_pure (by simpa using hlater)) ?_
      rw [sizes, List.length_cons]
      omega

end

/-- Without its first range, each form has one range less. -/
theorem formRanges_tails (h : ∀ form ∈ forms, form ≠ []) :
    formRanges (forms.map List.tail) + forms.length = formRanges forms := by
  induction forms with
  | nil => rfl
  | cons form rest ih =>
      obtain ⟨hform, hrest⟩ := List.forall_mem_cons.mp h
      have hlater := ih hrest
      have hlength := List.length_pos_iff.mpr hform
      simp only [formRanges, List.map_cons, List.sum_cons, List.length_cons,
        List.length_tail] at hlater ⊢
      omega

/-- Groups of forms that begin alike make one branch each. -/
theorem sizes_groups {depth : Nat} (h : ∀ forms, (ofForms depth forms).size ≤ formRanges forms)
    {groups : List (List (List (Nat × Nat)))}
    (hgroups : ∀ group ∈ groups, group ≠ [] ∧ ∀ form ∈ group, form ≠ []) :
    sizes (groups.filterMap fun group => do
      let range ← (← group.head?).head?
      return (range, ofForms depth (group.map List.tail))) ≤ formRanges groups.flatten := by
  induction groups with
  | nil => exact Nat.zero_le _
  | cons group rest ih =>
      obtain ⟨⟨hne, hforms⟩, hrest⟩ := List.forall_mem_cons.mp hgroups
      obtain ⟨form, others, rfl⟩ := List.exists_cons_of_ne_nil hne
      obtain ⟨range, form, rfl⟩ := List.exists_cons_of_ne_nil (hforms _ List.mem_cons_self)
      have htails := formRanges_tails hforms
      have htree := h (((range :: form) :: others).map List.tail)
      have hlater := ih hrest
      have hsum : formRanges (((range :: form) :: others) ++ rest.flatten) =
          formRanges ((range :: form) :: others) + formRanges rest.flatten := by
        simp [formRanges, Nat.add_assoc]
      rw [List.length_cons] at htails
      rw [List.flatten_cons, hsum]
      show 1 + (ofForms depth (((range :: form) :: others).map List.tail)).size + sizes _ ≤ _
      omega

/-- Forms that are put together have at most as many branches as ranges. -/
theorem size_ofForms (depth : Nat) (forms : List (List (Nat × Nat))) :
    (ofForms depth forms).size ≤ formRanges forms := by
  induction depth generalizing forms with
  | zero => exact Nat.zero_le _
  | succ depth ih =>
      have hflatten := List.flatten_splitBy (fun a b => a.head? == b.head?)
        (forms.filter (!·.isEmpty))
      refine Nat.le_trans (sizes_groups ih fun group hgroup => ⟨?_, fun form hform => ?_⟩) ?_
      · exact List.ne_nil_of_mem_splitBy hgroup
      · have hmem : form ∈ forms.filter (!·.isEmpty) := by
          rw [← hflatten]
          exact List.mem_flatten.mpr ⟨group, hgroup, hform⟩
        simpa using (List.mem_filter.mp hmem).2
      · rw [hflatten]
        exact (List.filter_sublist.map _).sum_le_sum fun _ _ => Nat.zero_le _

end ByteTree

/-! ## Classes -/

variable {forms : List (List (Nat × Nat))} {members : CodedClass} {count : Nat}

theorem length_utf8Bytes_le (n : Nat) : (Text.utf8Bytes n).length ≤ 4 := by
  rw [Text.utf8Bytes, List.length_map, String.length_utf8EncodeChar]
  exact Char.utf8Size_le_four _

/-- A byte form has at most four ranges. -/
theorem length_le_four_of_mem {first last : Nat} {form : List (Nat × Nat)}
    (h : form ∈ Text.utf8Forms first last) : form.length ≤ 4 := by
  fun_induction Text.utf8Forms first last with
  | case1 first last cut hcut hbounds ihfirst ihlast =>
      exact (List.mem_append.mp h).elim ihfirst ihlast
  | case2 => exact absurd h List.not_mem_nil
  | case3 first last hnone =>
      rw [List.mem_singleton.mp h, List.length_zip]
      exact Nat.le_trans (Nat.min_le_left _ _) (length_utf8Bytes_le first)

theorem formRanges_le (h : ∀ form ∈ forms, form.length ≤ 4) :
    formRanges forms ≤ 4 * forms.length := by
  induction forms with
  | nil => exact Nat.zero_le _
  | cons form rest ih =>
      obtain ⟨hform, hrest⟩ := List.forall_mem_cons.mp h
      have hlater := ih hrest
      rw [formRanges, List.map_cons, List.sum_cons, List.length_cons]
      unfold formRanges at hlater
      omega

theorem takes_buildForm (form : List (Nat × Nat)) (reached : Nat)
    (memory : Memory (Nat × Nat × Nat)) :
    (buildForm form reached memory).Takes (32 * form.length) := by
  induction form generalizing reached memory with
  | nil => exact takes_pure _
  | cons range rest ih =>
      obtain ⟨first, last⟩ := range
      rw [buildForm]
      split
      · refine (ih _ _).mono ?_
        rw [List.length_cons]
        omega
      · refine ((takes_byteState 0).andThen fun state => ih state _).mono ?_
        rw [List.length_cons]
        omega

theorem takes_buildForms (target : Nat) (forms : List (List (Nat × Nat)))
    (memory : Memory (Nat × Nat × Nat)) :
    (buildForms target forms memory).Takes (32 * formRanges forms + 4 * forms.length) := by
  induction forms generalizing memory with
  | nil => exact takes_pure _
  | cons form rest ih =>
      rw [buildForms]
      refine ((takes_buildForm form target memory).andThen fun reached =>
        (takes_choices 1).andThen fun _ => ih reached.2).mono ?_
      simp only [formRanges, List.map_cons, List.sum_cons, List.length_cons]
      omega

/-- A class of which neither the ranges nor the byte forms are many. -/
structure CodedClass.IsSmall (members : CodedClass) (count : Nat) : Prop where
  ranges : members.ranges.length ≤ count
  forms : members.forms.length ≤ count
  form : ∀ form ∈ members.forms, form.length ≤ 4
  tree : members.tree = .ofForms 4 members.forms

/-- The space for a class with that many ranges and byte forms. -/
def classSpace (count : Nat) : Nat := 64 + 160 * count

theorem CodedClass.IsSmall.takes_build (h : members.IsSmall count) (backwards : Bool) :
    (members.build backwards).Takes (classSpace count) := by
  have hranges := h.ranges
  have hforms := h.forms
  have hsum := formRanges_le h.form
  unfold CodedClass.build classSpace
  split
  · refine ((takes_charge 1 0).andThen fun _ =>
      (takes_byteState _).andThen fun _ => takes_pure ()).mono ?_
    omega
  · cases backwards with
    | true =>
        refine ((takes_charge 2 0).andThen fun choice =>
          takes_buildForms (choice + 1) members.forms _).mono ?_
        omega
    | false =>
        have hsize := ByteTree.size_ofForms 4 members.forms
        rw [← h.tree] at hsize
        refine ((takes_charge 1 0).andThen fun target =>
          (ByteTree.takes_build target members.tree _).andThen fun _ => takes_pure ()).mono ?_
        omega

/-! ## Layouts of texts -/

/-- A bound for the number of characters that fold to the same one: one for each run of case
folding, and one more. -/
def mostMates : Nat := 211

theorem length_fold_lt : CaseRun.fold.length + 1 = mostMates := by decide +kernel

theorem isSmall_mateClass (c : Char) :
    CodedClass.IsSmall { ranges := (mateClass c).codeRanges } mostMates where
  ranges := by
    obtain ⟨hranges, hlength⟩ := codeRanges_mateClass c
    rw [← length_fold_lt]
    exact Nat.le_trans (length_ranges hranges) hlength
  forms := by
    rw [← length_fold_lt]
    exact length_forms_mateClass c
  form form hform := by
    obtain ⟨range, -, hform⟩ := List.mem_flatMap.mp hform
    exact length_le_four_of_mem hform
  tree := rfl

/-- Layouts that are made of that many characters, each in a text or as a small class. -/
inductive Spells : List Layout → Nat → Prop where
  | nil : Spells [] 0
  | literal {text : List Char} {rest : List Layout} {length : Nat} (hne : text ≠ [])
      (h : Spells rest length) : Spells (.literal text :: rest) (text.length + length)
  | chars {members : CodedClass} {rest : List Layout} {length : Nat}
      (hsmall : members.IsSmall mostMates) (h : Spells rest length) :
      Spells (.chars members :: rest) (1 + length)

variable {parts rest : List Layout} {length more : Nat}

theorem Spells.append (h : Spells parts length) (hrest : Spells rest more) :
    Spells (parts ++ rest) (length + more) := by
  induction h with
  | nil => rwa [Nat.zero_add]
  | literal hne h ih =>
      rw [List.cons_append, Nat.add_assoc]
      exact .literal hne ih
  | chars hsmall h ih =>
      rw [List.cons_append, Nat.add_assoc]
      exact .chars hsmall ih

/-- Joining texts that meet does not change the number of characters. -/
theorem Spells.joined (h : Spells parts length) :
    Spells (parts.foldr Layout.prepend []) length := by
  induction h with
  | nil => exact .nil
  | @literal text rest length hne h ih =>
      rw [List.foldr_cons]
      generalize rest.foldr Layout.prepend [] = joined at ih
      cases ih with
      | nil => exact .literal hne .nil
      | @literal next later more hnext ih =>
          have hjoined : Spells (.literal (text ++ next) :: later) ((text ++ next).length + more) :=
            .literal (List.append_ne_nil_of_left_ne_nil hne next) ih
          rwa [List.length_append, Nat.add_assoc] at hjoined
      | chars hsmall ih => exact .literal hne (.chars hsmall ih)
  | chars hsmall h ih => exact .chars hsmall ih

theorem Spells.ofParts {layouts : List Layout} (h : Spells (layouts.flatMap Layout.parts) length) :
    Spells (Layout.ofParts layouts).parts length := by
  have hjoined := h.joined
  unfold Layout.ofParts
  generalize (layouts.flatMap Layout.parts).foldr Layout.prepend [] = joined at hjoined
  split
  · exact hjoined
  · cases hjoined with
    | literal hne hnil => exact .literal hne hnil
    | chars hsmall hnil => exact .chars hsmall hnil
  · exact hjoined

/-- Ranges make a class or, if there is only one character in them, a text of it. -/
theorem ofRanges_cases (ranges : List (Nat × Nat)) :
    Layout.ofRanges ranges = .chars { ranges } ∨
      ∃ c, Layout.ofRanges ranges = .literal [c] := by
  unfold Layout.ofRanges
  split
  · split
    · exact .inr ⟨_, rfl⟩
    · exact .inl rfl
  · exact .inl rfl

theorem spells_eitherCase (c : Char) : Spells (eitherCase c).layout.parts 1 := by
  have hlayout : (eitherCase c).layout = .ofRanges (mateClass c).codeRanges := by
    rw [eitherCase, Parse.charsOf, Expr.layout]
  rw [hlayout]
  rcases ofRanges_cases (mateClass c).codeRanges with hclass | ⟨d, hliteral⟩
  · rw [hclass]
    exact .chars (isSmall_mateClass c) .nil
  · rw [hliteral]
    exact .literal (List.cons_ne_nil d []) .nil

theorem spells_push {done : Expr} (h : Spells done.layout.parts length) (c : Char) :
    Spells (Parse.push done (some (eitherCase c))).layout.parts (length + 1) := by
  rcases push_cases done (eitherCase c) with ⟨rfl, hpush⟩ | hpush
  · rw [Expr.layout] at h
    cases h
    rw [hpush]
    exact spells_eitherCase c
  · rw [hpush, Expr.layout]
    refine Spells.ofParts ?_
    rw [List.flatMap_cons, List.flatMap_cons, List.flatMap_nil, List.append_nil]
    exact h.append (spells_eitherCase c)

theorem spells_spelled (text : List Char) : Spells (spelled text).layout.parts text.length := by
  induction text using List.reverseRecOn with
  | nil =>
      rw [spelled, List.foldl_nil, Expr.layout]
      exact .nil
  | append_singleton rest c ih =>
      rw [spelled, List.foldl_append, List.length_append]
      exact spells_push ih c

/-! ## Matchers for texts -/

open Build (choices)

/-- The space for a character of a text, with a way on to the next part. -/
def charSpace : Nat := classSpace mostMates + 4

theorem takes_choice (chosen : Bool) : (choices chosen.toNat).Takes 4 := by
  have hone := Bool.toNat_le chosen
  exact (takes_choices _).mono (by omega)

theorem length_textBytes_le (text : List Char) : (textBytes text).length ≤ 4 * text.length := by
  induction text with
  | nil => exact Nat.le_refl 0
  | cons c rest ih =>
      have hfirst := length_utf8Bytes_le c.toNat
      rw [textBytes, List.flatMap_cons, List.length_append, List.length_cons]
      unfold textBytes at ih
      omega

theorem takes_literal (backwards : Bool) {text : List Char} (hne : text ≠ []) :
    ((Layout.literal text).build backwards).Takes (charSpace * text.length - 4) := by
  have hbytes := length_textBytes_le text
  have hlength := List.length_pos_iff.mpr hne
  rw [Layout.build]
  refine ((takes_charge _ 0).andThen fun _ => takes_pure false).mono ?_
  unfold charSpace classSpace mostMates
  omega

theorem CodedClass.IsSmall.takes_chars (h : members.IsSmall mostMates) (backwards : Bool) :
    ((Layout.chars members).build backwards).Takes (charSpace - 4) := by
  rw [Layout.build]
  exact (h.takes_build backwards).andThen fun _ => takes_pure false

/-- A part takes its own space, and some for the way to the parts after it. -/
theorem takes_buildParts_cons {a : Layout} {backwards : Bool} {space spaceRest : Nat}
    (ha : (a.build backwards).Takes space)
    (hrest : (Layout.buildParts backwards rest).Takes spaceRest) :
    (Layout.buildParts backwards (a :: rest)).Takes (space + spaceRest + 4) := by
  rw [Layout.buildParts]
  cases backwards with
  | true =>
      refine (hrest.andThen fun after? => ha.andThen fun chosen =>
        (takes_choice _).andThen fun _ => takes_pure (some chosen)).mono ?_
      omega
  | false =>
      refine Build.Within.mono (ha.andThen fun chosen => hrest.andThen fun last? =>
        (?_ : Build.Takes _ 4)) (by omega)
      cases last? with
      | none => exact (takes_pure _).mono (Nat.zero_le _)
      | some last => exact (takes_choice chosen).andThen fun _ => takes_pure (some last)

/-- The parts of a text take the space of its characters. -/
theorem Spells.takes_buildParts (h : Spells parts length) (backwards : Bool) :
    (Layout.buildParts backwards parts).Takes (charSpace * length) := by
  induction h with
  | nil => exact (takes_pure _).mono (Nat.zero_le _)
  | @literal text rest length hne h ih =>
      have hlength := List.length_pos_iff.mpr hne
      refine (takes_buildParts_cons (takes_literal backwards hne) ih).mono ?_
      rw [Nat.mul_add]
      unfold charSpace classSpace mostMates
      omega
  | chars hsmall h ih =>
      refine (takes_buildParts_cons (hsmall.takes_chars backwards) ih).mono ?_
      rw [Nat.mul_add]
      unfold charSpace classSpace mostMates
      omega

theorem Spells.takes_build {layout : Layout} (h : Spells layout.parts length) (backwards : Bool) :
    (layout.build backwards).Takes (32 + charSpace * length) := by
  cases layout with
  | empty =>
      rw [Layout.build]
      refine ((takes_charge 1 0).andThen fun _ => takes_pure false).mono ?_
      omega
  | literal text =>
      cases h with
      | literal hne hnil =>
          cases hnil
          refine (takes_literal backwards hne).mono ?_
          rw [Nat.add_zero]
          omega
  | chars members =>
      cases h with
      | chars hsmall hnil =>
          cases hnil
          refine (hsmall.takes_chars backwards).mono ?_
          omega
  | sequence parts =>
      rw [Layout.build]
      refine ((h.takes_buildParts backwards).andThen fun last? => takes_pure _).mono ?_
      omega
  | look | repeated | group | either => cases h

theorem takes_end (chosen : Bool) : (Build.charge 1 (4 * chosen.toNat)).Takes 36 := by
  have hone := Bool.toNat_le chosen
  exact (takes_charge 1 _).mono (by omega)

/-- An automaton for a layout takes little more than the layout itself. -/
theorem takes_buildAll {layout : Layout} {space : Nat}
    (h : ∀ backwards, (layout.build backwards).Takes space) (backwards : Bool) :
    (layout.buildAll backwards).Takes (space + 216) := by
  have hwhole : (Layout.build backwards (if backwards then layout else .group layout)).Takes
      (space + 68) := by
    cases backwards with
    | true => exact (h true).mono (Nat.le_add_right _ _)
    | false =>
        show (Layout.build false (.group layout)).Takes _
        rw [Layout.build, if_neg Bool.false_ne_true]
        refine ((takes_charge 1 0).andThen fun _ => (h false).andThen fun chosen =>
          (takes_end chosen).andThen fun _ => takes_pure false).mono ?_
        omega
  have hrest := hwhole.andThen fun chosen => (takes_end chosen).andThen fun _ => takes_pure ()
  unfold Layout.buildAll
  dsimp only
  by_cases hanchored : layout.isAnchored (if backwards then .right else .left)
  · rw [if_pos hanchored]
    refine ((takes_charge 1 0).andThen fun _ => hrest).mono ?_
    omega
  · rw [if_neg hanchored]
    refine ((takes_charge 3 16).andThen fun _ => hrest).mono ?_
    omega

/-- A matcher for a text of at most 200 characters does not take too much space. -/
theorem fits_spelled {text : List Char} (h : text.length ≤ maxLength) :
    (spelled text).layout.fits := by
  have hbuild (backwards : Bool) : ((spelled text).layout.buildAll backwards {}).isSome := by
    have htakes := takes_buildAll (spells_spelled text).takes_build backwards
    have hempty : ({} : Meter).space = 0 := rfl
    have hroom : ({} : Meter).space + (32 + charSpace * text.length + 216) ≤ maxSpace := by
      unfold maxLength at h
      unfold charSpace classSpace mostMates maxSpace
      omega
    obtain ⟨result, after, hresult, -⟩ := htakes {} hroom
    rw [hresult]
    rfl
  unfold Layout.fits
  rw [hbuild false, hbuild true]
  rfl

end ToolDiscovery.Pattern
