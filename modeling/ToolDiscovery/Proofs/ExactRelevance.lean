import Mathlib.Analysis.SpecialFunctions.Log.Basic
import ToolDiscovery.Proofs.IndexBatches
import ToolDiscovery.Proofs.Searching
import ToolDiscovery.Proofs.Tokens

/-!
# Relevance with exact numbers

The formulas of relevance can be computed with real numbers instead of floating-point numbers. Then
nothing is rounded: every token that occurs has a positive weight, nothing is divided by zero, and
every token that a document shares with the query adds to its score. So a search with room for all
tools finds exactly those that share a token with the query: `Bm25.exact_search_recall`.
-/

namespace ToolDiscovery

open Text (tokenize)

/-- Real numbers, with which nothing is rounded. -/
noncomputable instance : Arithmetic ℝ where
  ofNat n := n
  half := 1 / 2
  log := Real.log
  isPositive x := decide (0 < x)
  atLeast x y := decide (y ≤ x)

/-- The corpus of the documents of tools. -/
def Corpus.ofTools {α : Type} [Arithmetic α] (tools : List ToolDefinition) : Corpus α :=
  Corpus.add {} (tools.map fun tool => (IndexEntry.ofDefinition tool).document)

/-- A text has a token of a query. -/
def Text.SharesToken (query text : String) : Prop :=
  ∃ token ∈ tokenize query, token ∈ tokenize text

instance (query text : String) : Decidable (Text.SharesToken query text) :=
  inferInstanceAs (Decidable (∃ token ∈ tokenize query, token ∈ tokenize text))

/-- A query shares a token with the document of a tool if it shares one with a text of the tool. -/
theorem sharesToken_document {query : String} {tool : ToolDefinition} :
    Text.SharesToken query (IndexEntry.ofDefinition tool).document ↔
      ∃ text ∈ tool.name :: tool.detailTexts, Text.SharesToken query text := by
  simp only [Text.SharesToken, IndexEntry.mem_tokenize_document]
  constructor
  · rintro ⟨token, hquery, text, htext, htoken⟩
    exact ⟨text, htext, token, hquery, htoken⟩
  · rintro ⟨text, htext, token, hquery, htoken⟩
    exact ⟨token, hquery, text, htext, htoken⟩

/-- The corpus of an index holds the documents of its tools. -/
theorem CatalogIndex.corpus_afterAll (batches : List (List ToolDefinition)) :
    (afterAll {} batches).corpus = Corpus.ofTools (accepted {} batches).flatten := by
  have hentries : (afterAll {} batches).entries.toList =
      (accepted {} batches).flatten.map .ofDefinition := by
    rw [afterAll_eq_pushAll .empty, entries_pushAll]
    rfl
  rw [(Built.empty.afterAll batches).aligned.corpus, hentries, List.map_map]
  rfl

open Arithmetic (ofNat half)

namespace Corpus

variable {corpus : Corpus ℝ} {texts : List String} {token : String} {weight : ℝ}

/-- A token that occurs says something, even if it occurs in every text. -/
theorem Describes.weight_pos (h : corpus.Describes texts)
    (hweight : corpus.idf? token = some weight) : 0 < weight := by
  obtain ⟨-, rfl⟩ := (h.idf? token weight).mp hweight
  have hle : (textsWith texts token : ℝ) ≤ texts.length := by
    exact_mod_cast List.countP_le_length
  show 0 < Real.log (((texts.length : ℝ) - textsWith texts token + 1 / 2) /
    (textsWith texts token + 1 / 2) + (1 : ℕ))
  have hratio : 0 < ((texts.length : ℝ) - textsWith texts token + 1 / 2) /
      (textsWith texts token + 1 / 2) := div_pos (by linarith) (by positivity)
  exact Real.log_pos (by push_cast; linarith)

/-- If there is a token at all, lengths can be compared. -/
theorem Describes.averageLength_pos (h : corpus.Describes texts) {document : Document}
    (hmem : document ∈ corpus.documents) (hlength : 0 < document.length) :
    0 < corpus.averageLength := by
  rw [← Array.mem_toList_iff, h.counts.documents] at hmem
  obtain ⟨text, htext, rfl⟩ := List.mem_map.mp hmem
  obtain ⟨token, htoken⟩ := List.exists_mem_of_length_pos hlength
  have htokens : 0 < (texts.flatMap tokenize).length :=
    List.length_pos_of_mem (List.mem_flatMap.mpr ⟨text, htext, htoken⟩)
  have htexts : 0 < texts.length := List.length_pos_of_mem htext
  rw [h.averageLength, if_neg (List.ne_nil_of_mem htext)]
  exact div_pos (Nat.cast_pos.mpr htokens) (Nat.cast_pos.mpr htexts)

end Corpus

namespace Bm25

/-- The parameters of catalog search as exact numbers. -/
noncomputable def exact : Bm25 ℝ := ⟨1.5, 0.75⟩

variable {corpus : Corpus ℝ} {texts terms : List String} {text token : String} {weight : ℝ}
  {document : Document}

theorem lengthNorm_pos (corpus : Corpus ℝ) (document : Document) :
    0 < exact.lengthNorm corpus document := by
  unfold lengthNorm
  by_cases h : Arithmetic.isPositive corpus.averageLength
  · have hlength : (0 : ℝ) < corpus.averageLength := of_decide_eq_true h
    rw [if_pos h]
    show (0 : ℝ) < 1.5 * ((1 : ℕ) - 0.75 + 0.75 * (document.length : ℝ) / corpus.averageLength)
    have hratio : 0 ≤ 0.75 * (document.length : ℝ) / corpus.averageLength := by positivity
    have hone : (0 : ℝ) < (1 : ℕ) - 0.75 := by norm_num
    positivity
  · rw [if_neg h]
    show (0 : ℝ) < 1.5
    norm_num

/-- An occurrence in a document adds to its score, however long the document is. -/
theorem tokenScore_pos (document : Document) (hweight : corpus.idf? token = some weight)
    (hpos : 0 < weight) {count : Nat} (hcount : 0 < count) :
    0 < exact.tokenScore corpus document token count := by
  have hnorm := lengthNorm_pos corpus document
  unfold tokenScore
  rw [hweight]
  show 0 < weight * (count : ℝ) * (1.5 + (1 : ℕ)) /
    ((count : ℝ) + exact.lengthNorm corpus document)
  positivity

/-- A text has a positive score if it shares a token with the query, and else none. -/
theorem score_pos_iff (h : corpus.Describes texts) (htext : text ∈ texts) (terms : List String) :
    0 ≤ exact.score corpus terms (.ofText text) ∧
      (0 < exact.score corpus terms (.ofText text) ↔ ∃ token ∈ terms, token ∈ tokenize text) := by
  induction terms using List.reverseRecOn with
  | nil => simp [score, Arithmetic.ofNat]
  | append_singleton rest token ih =>
      obtain ⟨hnonneg, hiff⟩ := ih
      by_cases htoken : token ∈ tokenize text
      · obtain ⟨count, hcount, hentry⟩ := Document.counts_of_mem htoken
        obtain ⟨weight, hweight⟩ : ∃ weight, corpus.idf? token = some weight :=
          ⟨_, (h.idf? token _).mpr ⟨⟨text, htext, htoken⟩, rfl⟩⟩
        have hadded := tokenScore_pos (.ofText text) hweight (h.weight_pos hweight) hcount
        have hscore : 0 < exact.score corpus (rest ++ [token]) (.ofText text) := by
          rw [score_append_of_some hentry]
          exact add_pos_of_nonneg_of_pos hnonneg hadded
        refine ⟨hscore.le, fun _ => ⟨token, by simp, htoken⟩, fun _ => hscore⟩
      · rw [score_append_of_none (Document.counts_of_not_mem htoken)]
        refine ⟨hnonneg, hiff.trans ⟨?_, ?_⟩⟩
        · rintro ⟨other, hother, hmem⟩
          exact ⟨other, List.mem_append_left _ hother, hmem⟩
        · rintro ⟨other, hother, hmem⟩
          rcases List.mem_append.mp hother with hother | hother
          · exact ⟨other, hother, hmem⟩
          · cases List.mem_singleton.mp hother
            exact absurd hmem htoken

/-- A search with room for all documents finds those that share a token with the query. -/
theorem mem_exact_search (h : corpus.Describes texts) (query : String) {limit : Nat}
    (hlimit : texts.length ≤ limit) (position : Nat) :
    (∃ s ∈ exact.search corpus query limit, s.position = position) ↔
      ∃ text, texts[position]? = some text ∧ Text.SharesToken query text := by
  have hroom : (exact.answers corpus (tokenize query)).length ≤ limit :=
    Nat.le_trans length_answers_le (h.counts.size_eq ▸ hlimit)
  have hscore {text : String} (htext : texts[position]? = some text) :
      0 < exact.score corpus (tokenize query) (.ofText text) ↔ Text.SharesToken query text :=
    (score_pos_iff h (List.mem_of_getElem? htext) (tokenize query)).2
  constructor
  · rintro ⟨s, hs, rfl⟩
    obtain ⟨document, hdocument, hanswer⟩ := Option.bind_eq_some_iff.mp
      (mem_answers.mp ((Scored.perm_best_of_length_le hroom).mem_iff.mp hs))
    rw [← Array.getElem?_toList, h.counts.documents, List.getElem?_map] at hdocument
    obtain ⟨text, htext, rfl⟩ := Option.map_eq_some_iff.mp hdocument
    obtain ⟨hvalue, hpos⟩ := score?_eq_some.mp hanswer
    refine ⟨text, htext, (hscore htext).mp ?_⟩
    rw [← hvalue]
    exact of_decide_eq_true hpos
  · rintro ⟨text, htext, hshares⟩
    have hpos := decide_eq_true ((hscore htext).mpr hshares)
    refine ⟨⟨position, exact.score corpus (tokenize query) (.ofText text)⟩,
      (Scored.perm_best_of_length_le hroom).mem_iff.mpr (mem_answers.mpr ?_), rfl⟩
    rw [h.counts.document_eq htext]
    exact score?_eq_some.mpr ⟨rfl, hpos⟩

/-- The tools of an index are searched for in one corpus, whatever numbers it computes with. With
exact numbers, a search with room for all of them finds exactly the tools with a text that shares a
token with the query, each once: so every token of its texts finds a tool. Every token of the corpus
has a positive weight, and whatever is divided by is positive. -/
theorem exact_search_recall (batches : List (List ToolDefinition)) (limit : Nat)
    (hlimit : (CatalogIndex.accepted {} batches).flatten.length ≤ limit) :
    let index := CatalogIndex.afterAll {} batches
    let tools := (CatalogIndex.accepted {} batches).flatten
    let corpus : Corpus ℝ := .ofTools tools
    (∀ query limit,
      index.rankWords query limit = Bm25.default.search (.ofTools tools) query limit) ∧
    (∀ query position, (∃ s ∈ exact.search corpus query limit, s.position = position) ↔
      ∃ tool, tools[position]? = some tool ∧
        ∃ text ∈ tool.name :: tool.detailTexts, Text.SharesToken query text) ∧
    (∀ query, ((exact.search corpus query limit).map (·.position)).Nodup) ∧
    (∀ (position : Nat) tool, tools[position]? = some tool →
      ∀ text ∈ tool.name :: tool.detailTexts, ∀ token ∈ tokenize text,
        ∃ s ∈ exact.search corpus token limit, s.position = position) ∧
    (∀ token, corpus.idf? token ≠ none ↔
      ∃ tool ∈ tools, ∃ text ∈ tool.name :: tool.detailTexts, token ∈ tokenize text) ∧
    (∀ token weight, corpus.idf? token = some weight → 0 < weight) ∧
    (tools ≠ [] → 0 < (ofNat corpus.size : ℝ)) ∧
    (∀ documents, 0 < (ofNat documents + half : ℝ)) ∧
    (∀ document ∈ corpus.documents, 0 < document.length → 0 < corpus.averageLength) ∧
    ∀ document ∈ corpus.documents, ∀ count, 0 < ofNat count + exact.lengthNorm corpus document := by
  intro index tools corpus
  let texts := tools.map fun tool => (IndexEntry.ofDefinition tool).document
  have hdescribes : corpus.Describes texts := Corpus.Describes.empty.add texts
  have hfound (query : String) (position : Nat) :
      (∃ s ∈ exact.search corpus query limit, s.position = position) ↔
        ∃ tool, tools[position]? = some tool ∧
          ∃ text ∈ tool.name :: tool.detailTexts, Text.SharesToken query text := by
    have hroom : texts.length ≤ limit := by
      rw [List.length_map]
      exact hlimit
    rw [mem_exact_search hdescribes query hroom position, List.getElem?_map]
    simp only [Option.map_eq_some_iff, ← sharesToken_document]
    constructor
    · rintro ⟨_, ⟨tool, htool, rfl⟩, hshares⟩
      exact ⟨tool, htool, hshares⟩
    · rintro ⟨tool, htool, hshares⟩
      exact ⟨_, ⟨tool, htool, rfl⟩, hshares⟩
  refine ⟨fun query limit => ?_, hfound, fun query => ?_,
    fun position tool htool text htext token htoken => ?_, fun token => ?_,
    fun token weight => hdescribes.weight_pos, fun hne => ?_, fun documents => ?_,
    fun document => hdescribes.averageLength_pos, fun document _ count => ?_⟩
  · rw [CatalogIndex.rankWords, CatalogIndex.corpus_afterAll]
  · exact ((Scored.perm_rank _).map _).nodup_iff.mpr distinct_answers |>.sublist
      ((List.take_sublist limit _).map _)
  · refine (hfound token position).mpr ⟨tool, htool, text, htext, token, ?_, htoken⟩
    rw [Text.tokenize_token htoken]
    exact List.mem_singleton_self token
  · rw [Option.ne_none_iff_exists']
    simp only [hdescribes.idf?, exists_and_left, exists_eq, and_true]
    simp only [texts, List.mem_map, exists_exists_and_eq_and, IndexEntry.mem_tokenize_document]
  · rw [hdescribes.counts.size_eq, List.length_map]
    exact Nat.cast_pos.mpr (List.length_pos_iff.mpr hne)
  · show (0 : ℝ) < documents + 1 / 2
    positivity
  · have hnorm := lengthNorm_pos corpus document
    show (0 : ℝ) < count + _
    positivity

/-- A tool that is found by the name of its parameter only. -/
def noteTool : ToolDefinition where
  name := "note"
  description := ""
  parameters := .object [("properties", .object [("body", .null)])]

/-- The name of its parameter finds the second of two tools, and not the first one. -/
theorem exact_search_recall_body :
    let corpus : Corpus ℝ := .ofTools [mailTool, noteTool]
    (∃ s ∈ exact.search corpus "body" 2, s.position = 1) ∧
      ¬ ∃ s ∈ exact.search corpus "body" 2, s.position = 0 := by
  intro corpus
  have haccepted : CatalogIndex.accepted {} [[mailTool], [noteTool]] = [[mailTool], [noteTool]] :=
    rfl
  have hroom : (CatalogIndex.accepted {} [[mailTool], [noteTool]]).flatten.length ≤ 2 :=
    haccepted ▸ Nat.le_refl 2
  have hbody : ¬ ∃ text ∈ mailTool.name :: mailTool.detailTexts,
      Text.SharesToken "body" text := by decide +kernel
  obtain ⟨-, hfound, -⟩ := exact_search_recall [[mailTool], [noteTool]] 2 hroom
  rw [haccepted] at hfound
  constructor
  · exact (hfound "body" 1).mpr ⟨noteTool, rfl, "body", by decide, by decide +kernel⟩
  · intro hmail
    obtain ⟨tool, htool, hshares⟩ := (hfound "body" 0).mp hmail
    cases htool
    exact hbody hshares

end Bm25

end ToolDiscovery
