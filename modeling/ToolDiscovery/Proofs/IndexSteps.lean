import ToolDiscovery.Catalog.Index
import ToolDiscovery.Proofs.CorpusStatistics

/-!
# Tools one by one

An index takes the documents of a batch of tools first and their entries after that. As long as its
corpus is up to date, this is the same as taking one tool after the other: `add_eq_ok`. Of a batch
that is refused it takes nothing: `extend_of_lt`.
-/

namespace ToolDiscovery.CatalogIndex

/-- Adds an entry with its document. -/
def push (index : CatalogIndex) (entry : IndexEntry) : CatalogIndex where
  entries := index.entries.push entry
  positions := index.positions.insert entry.name index.size
  corpus := index.corpus.add [entry.document]

/-- Adds tools one by one, however many there are. -/
def pushAll (index : CatalogIndex) (tools : List ToolDefinition) : CatalogIndex :=
  tools.foldl (fun index tool => index.push (.ofDefinition tool)) index

/-- An index that has been made by adding tools. -/
inductive Built : CatalogIndex → Prop where
  | empty : Built {}
  | add {index next : CatalogIndex} {tools : List ToolDefinition} (h : Built index)
      (hadd : index.add tools = .ok next) : Built next

variable {index next : CatalogIndex} {tools : List ToolDefinition}

theorem pushAll_append (index : CatalogIndex) (tools more : List ToolDefinition) :
    index.pushAll (tools ++ more) = (index.pushAll tools).pushAll more :=
  List.foldl_append

/-- The documents may come before the entries. -/
theorem foldl_place (h : index.corpus.Current) (entries : List IndexEntry) :
    entries.foldl place { index with corpus := index.corpus.add (entries.map (·.document)) } =
      entries.foldl push index := by
  induction entries generalizing index with
  | nil =>
      have hcorpus : index.corpus.add [] = index.corpus := h
      rw [List.map_nil, hcorpus]
      rfl
  | cons entry rest ih =>
      -- The first document can be a batch of its own, since two batches are one.
      have hsplit : index.corpus.add (entry.document :: rest.map (·.document)) =
          (index.corpus.add [entry.document]).add (rest.map (·.document)) :=
        Corpus.add_append _ [entry.document] (rest.map IndexEntry.document)
      have hnext : (index.push entry).corpus.Current := Corpus.current_add _ _
      rw [List.map_cons, hsplit]
      exact ih hnext

/-- The entries are placed one after the other. -/
theorem forM_place (entries : List IndexEntry) (index : CatalogIndex) :
    (entries.forM fun entry => modify (·.place entry) : Change CatalogIndex PUnit) index =
      .ok ⟨⟩ (entries.foldl place index) := by
  induction entries generalizing index with
  | nil => rfl
  | cons entry rest ih => exact ih (index.place entry)

/-- A batch for which there is room is taken in. -/
theorem extend_of_le (hcurrent : index.corpus.Current)
    (h : index.size + tools.length ≤ maxTools) :
    extend tools index = .ok () (index.pushAll tools) := by
  have hpushAll : (tools.map IndexEntry.ofDefinition).foldl push index = index.pushAll tools :=
    List.foldl_map
  unfold extend
  rw [Change.run_get]
  simp only [if_neg (Nat.not_lt.mpr h)]
  rw [← hpushAll, ← foldl_place hcurrent]
  exact forM_place _ _

/-- A batch for which there is no room is refused before anything has been taken in. -/
theorem extend_of_lt (h : maxTools < index.size + tools.length) :
    extend tools index =
      .error (.catalogTooLarge (index.size + tools.length) maxTools) index := by
  unfold extend
  rw [Change.run_get]
  simp only [if_pos h]
  rfl

theorem add_of_le (hcurrent : index.corpus.Current) (h : index.size + tools.length ≤ maxTools) :
    index.add tools = .ok (index.pushAll tools) := by
  rw [add, Change.result_of_ok (extend_of_le hcurrent h)]
  rfl

theorem add_of_lt (h : maxTools < index.size + tools.length) :
    index.add tools = .error (.catalogTooLarge (index.size + tools.length) maxTools) := by
  rw [add, Change.result_of_error (extend_of_lt h)]
  rfl

theorem add_eq_ok (hcurrent : index.corpus.Current) : index.add tools = .ok next ↔
    index.size + tools.length ≤ maxTools ∧ next = index.pushAll tools := by
  by_cases h : index.size + tools.length ≤ maxTools
  · rw [add_of_le hcurrent h, Except.ok.injEq, eq_comm]
    exact (and_iff_right h).symm
  · rw [add_of_lt (Nat.lt_of_not_le h)]
    simp [h]

/-- A batch is refused if there is no room for it, and for no other reason. -/
theorem add_eq_error (hcurrent : index.corpus.Current) {error : DiscoveryError} :
    index.add tools = .error error ↔ maxTools < index.size + tools.length ∧
      error = .catalogTooLarge (index.size + tools.length) maxTools := by
  by_cases h : index.size + tools.length ≤ maxTools
  · rw [add_of_le hcurrent h]
    simp [Nat.not_lt.mpr h]
  · rw [add_of_lt (Nat.lt_of_not_le h), Except.error.injEq, eq_comm]
    exact (and_iff_right (Nat.lt_of_not_le h)).symm

theorem current_pushAll (h : index.corpus.Current) (tools : List ToolDefinition) :
    (index.pushAll tools).corpus.Current := by
  induction tools generalizing index with
  | nil => exact h
  | cons tool rest ih =>
      have hnext : (index.push (.ofDefinition tool)).corpus.Current := Corpus.current_add _ _
      exact ih hnext

/-- The corpus of an index that has been made by adding tools is up to date. -/
theorem Built.current (h : Built index) : index.corpus.Current := by
  induction h with
  | empty => exact Corpus.current_empty
  | add h hadd ih =>
      rw [((add_eq_ok ih).mp hadd).2]
      exact current_pushAll ih _

end ToolDiscovery.CatalogIndex
