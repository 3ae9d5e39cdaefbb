import ToolDiscovery.Proofs.CorpusStatistics
import ToolDiscovery.Proofs.PositiveSums
import ToolDiscovery.Proofs.Rankings

/-!
# Rankings by words

Whatever the parameters are, even if they make scores infinite or no numbers at all, a search by
words ranks the documents with a positive score and gives the first ones: `Bm25.search_ranking`. A
document can only have a positive score if it shares a token with the query.
-/

namespace ToolDiscovery

theorem PositiveFloat.IsPlaced.isNaN {a : Float.Model.UnpackedFloat} {place : Nat}
    (h : IsPlaced a place) : a.isNaN = false := by
  cases h
  rfl

theorem PositiveFloat.isNaN_of_pos {x : Float} (h : 0.0 < x) : x.isNaN = false := by
  show x.toModel.unpack.isNaN = false
  rcases unpack_of_pos h with ⟨hinfinity, -⟩ | ⟨hplaced, -⟩
  · rw [hinfinity]
    rfl
  · exact hplaced.isNaN

theorem Document.counts_of_mem {text token : String} (h : token ∈ Text.tokenize text) :
    ∃ count, 0 < count ∧ (ofText text).counts[token]? = some count := by
  have hcount : 0 < (Text.tokenize text).count token := List.count_pos_iff.mpr h
  refine ⟨_, hcount, ?_⟩
  rw [ofText, getElem?_counts]
  exact TokenCounts.entryAfter_none_eq_some.mpr ⟨hcount, rfl⟩

theorem Document.counts_of_not_mem {text token : String} (h : token ∉ Text.tokenize text) :
    (ofText text).counts[token]? = none := by
  rw [ofText, getElem?_counts, List.count_eq_zero.mpr h]
  rfl

namespace Bm25

open Scored (Distinct Precedes)
open Text (tokenize)

section Answers

variable {α : Type} [Arithmetic α] {parameters : Bm25 α} {corpus : Corpus α}
  {terms : List String} {document : Document}

/-- How well a document answers a query with the given tokens, if it does so at all. -/
def score? (parameters : Bm25 α) (corpus : Corpus α) (terms : List String)
    (document : Document) : Option α :=
  let score := parameters.score corpus terms document
  if Arithmetic.isPositive score then some score else none

theorem score?_eq_some {score : α} : parameters.score? corpus terms document = some score ↔
    score = parameters.score corpus terms document ∧ Arithmetic.isPositive score := by
  unfold score?
  by_cases h : Arithmetic.isPositive (parameters.score corpus terms document)
  · simp only [if_pos h, Option.some.injEq]
    constructor
    · rintro rfl
      exact ⟨rfl, h⟩
    · rintro ⟨rfl, -⟩
      rfl
  · simp only [if_neg h]
    constructor
    · intro hnone
      cases hnone
    · rintro ⟨rfl, hpos⟩
      exact absurd hpos h

theorem answers_eq (parameters : Bm25 α) (corpus : Corpus α) (terms : List String) :
    parameters.answers corpus terms =
      corpus.documents.toList.zipIdx.filterMap fun (document, position) =>
        (parameters.score? corpus terms document).map fun score => ⟨position, score⟩ := by
  unfold Bm25.answers
  refine List.filterMap_congr fun item _ => ?_
  obtain ⟨document, position⟩ := item
  by_cases h : Arithmetic.isPositive (parameters.score corpus terms document)
  · simp only [score?, h, if_true, Option.map_some]
  · simp only [score?, h, Bool.false_eq_true, if_false, Option.map_none]

theorem isSome_score? : (parameters.score? corpus terms document).isSome =
    Arithmetic.isPositive (parameters.score corpus terms document) := by
  unfold score?
  cases h : Arithmetic.isPositive (parameters.score corpus terms document) with
  | true => simp [h]
  | false => simp [h]

theorem mem_answers {s : Scored α} : s ∈ parameters.answers corpus terms ↔
    corpus.documents[s.position]?.bind (parameters.score? corpus terms) = some s.score := by
  rw [answers_eq, ← Array.getElem?_toList]
  exact Scored.mem_zipIdx_filterMap (f := parameters.score? corpus terms)

theorem distinct_answers : ((parameters.answers corpus terms).map (·.position)).Nodup := by
  rw [answers_eq]
  exact Scored.distinct_zipIdx_filterMap _ (parameters.score? corpus terms)

theorem length_answers_le : (parameters.answers corpus terms).length ≤ corpus.size := by
  rw [answers_eq]
  refine Nat.le_trans (List.length_filterMap_le _ _) ?_
  rw [List.length_zipIdx, Array.length_toList]
  exact Nat.le_refl _

/-- A token that occurs in the document adds to the score. -/
theorem score_append_of_some {token : String} {count : Nat}
    (h : document.counts[token]? = some count) :
    parameters.score corpus (terms ++ [token]) document =
      parameters.score corpus terms document +
        parameters.tokenScore corpus document token count := by
  rw [score, List.foldl_append, List.foldl_cons, List.foldl_nil, h]
  rfl

theorem score_append_of_none {token : String} (h : document.counts[token]? = none) :
    parameters.score corpus (terms ++ [token]) document =
      parameters.score corpus terms document := by
  rw [score, List.foldl_append, List.foldl_cons, List.foldl_nil, h]
  rfl

/-- A document without any token of the query has the score zero. -/
theorem score_eq_zero (h : ∀ token ∈ terms, document.counts[token]? = none) :
    parameters.score corpus terms document = Arithmetic.ofNat 0 := by
  induction terms using List.reverseRecOn with
  | nil => rfl
  | append_singleton rest token ih =>
      obtain ⟨hrest, htoken⟩ := List.forall_mem_append.mp h
      rw [score_append_of_none (htoken token List.mem_cons_self), ih hrest]

end Answers

theorem isPositive_iff {x : Float} : Arithmetic.isPositive x ↔ 0.0 < x := decide_eq_true_iff

variable {parameters : Bm25 Float} {corpus : Corpus} {terms : List String} {document : Document}

theorem length_answers : (parameters.answers corpus terms).length =
    corpus.documents.toList.countP fun document =>
      0.0 < parameters.score corpus terms document := by
  have hdocuments := List.zipIdx_map_fst 0 corpus.documents.toList
  rw [answers_eq, List.length_filterMap_eq_countP]
  conv_rhs => rw [← hdocuments, List.countP_map]
  refine List.countP_congr fun item _ => ?_
  rw [Option.isSome_map, isSome_score?]
  rfl

/-- A text with a positive score shares a token with the query. -/
theorem exists_token_of_score_pos {text : String}
    (h : 0.0 < parameters.score corpus terms (.ofText text)) :
    ∃ token ∈ terms, token ∈ tokenize text := by
  by_contra hnone
  push Not at hnone
  rw [score_eq_zero fun token htoken => Document.counts_of_not_mem (hnone token htoken)] at h
  exact absurd h (by decide +kernel)

/-- Whatever the parameters are, the documents with a positive score have exactly one ranking, in
which a higher score comes first and of equal scores the earlier document. A search gives the first
ones of it, as many as the limit says or as there are. So no document is found twice, each score is
a positive number, a larger limit only adds documents behind the others, and what is left out stands
behind all that is found. Every document that is found shares a token with the query. -/
theorem search_ranking (parameters : Bm25 Float) (batches : List (List String)) (query : String)
    (limit : Nat) :
    let texts := batches.flatten
    let corpus : Corpus := batches.foldl Corpus.add {}
    let scoreOf (text : String) := parameters.score corpus (tokenize query) (.ofText text)
    let isAnswer (s : Scored Float) : Prop :=
      ∃ text, texts[s.position]? = some text ∧ s.score = scoreOf text ∧ 0.0 < s.score
    let found := parameters.search corpus query limit
    (∃ ranking : List (Scored Float), (∀ s, s ∈ ranking ↔ isAnswer s) ∧
      ranking.Pairwise Precedes ∧
      (∀ other : List (Scored Float), (∀ s, s ∈ other ↔ isAnswer s) →
        other.Pairwise Precedes → other = ranking) ∧
      found = ranking.take limit) ∧
    found.Pairwise Precedes ∧
    (found.map (·.position)).Nodup ∧
    (∀ s ∈ found, 0.0 < s.score ∧ s.score.isNaN = false) ∧
    found.length = min limit (texts.countP fun text => 0.0 < scoreOf text) ∧
    (∀ larger, limit ≤ larger → found <+: parameters.search corpus query larger) ∧
    (∀ s, isAnswer s → s ∉ found → ∀ better ∈ found, better.Precedes s) ∧
    ∀ s ∈ found, ∃ text token, texts[s.position]? = some text ∧
      token ∈ tokenize query ∧ token ∈ tokenize text := by
  intro texts corpus scoreOf isAnswer found
  let answers := parameters.answers corpus (tokenize query)
  have hcounts : corpus.Counts texts := (Corpus.Describes.empty.addBatches batches).counts
  have hdistinct : Distinct answers := distinct_answers
  have hmem (s : Scored Float) : s ∈ answers ↔ isAnswer s := by
    rw [mem_answers, ← Array.getElem?_toList, hcounts.documents, List.getElem?_map,
      Option.bind_map, Option.bind_eq_some_iff]
    simp only [Function.comp_apply, score?_eq_some, isPositive_iff]
    constructor
    · rintro ⟨text, htext, hscore, hpos⟩
      exact ⟨text, htext, hscore, hscore ▸ hpos⟩
    · rintro ⟨text, htext, hscore, hpos⟩
      exact ⟨text, htext, hscore, hscore ▸ hpos⟩
  have hpositive (s : Scored Float) (hs : s ∈ found) : 0.0 < s.score := by
    obtain ⟨text, -, -, hpos⟩ := (hmem s).mp (Scored.mem_of_mem_best hs)
    exact hpos
  refine ⟨⟨Scored.rank answers, fun s => ?_, Scored.precedes_rank hdistinct,
    fun other hother => ?_, rfl⟩,
    Scored.precedes_best hdistinct, Scored.distinct_best hdistinct, fun s hs => ?_, ?_,
    fun larger hlarger => Scored.best_isPrefix hlarger answers, fun s hs hnot better hbetter => ?_,
    fun s hs => ?_⟩
  · rw [(Scored.perm_rank answers).mem_iff, hmem]
  · exact Scored.eq_rank_of_precedes hdistinct fun s => (hother s).trans (hmem s).symm
  · exact ⟨hpositive s hs, PositiveFloat.isNaN_of_pos (hpositive s hs)⟩
  · have hlength : answers.length = texts.countP fun text => 0.0 < scoreOf text := by
      rw [show answers.length = _ from length_answers, hcounts.documents, List.countP_map]
      rfl
    rw [← hlength]
    exact Scored.length_best limit answers
  · exact Scored.precedes_of_not_mem_best hdistinct ((hmem s).mpr hs) hnot hbetter
  · obtain ⟨text, htext, hscore, hpos⟩ := (hmem s).mp (Scored.mem_of_mem_best hs)
    obtain ⟨token, hquery, htoken⟩ := exists_token_of_score_pos (hscore ▸ hpos)
    exact ⟨text, token, htext, hquery, htoken⟩

/-- Of two texts that are the same the earlier one is found first, and the later one only if there
is room for both. With parameters that are no numbers nothing is found. -/
theorem search_ranking_mail :
    let corpus : Corpus := [["mail", "log"], ["mail"]].foldl Corpus.add {}
    let found := Bm25.default.search corpus "mail"
    (found 1).length = 1 ∧ (∀ s ∈ found 1, s.position = 0) ∧
      (found 5).length = 2 ∧ found 1 <+: found 5 ∧
      (search ⟨0.0 / 0.0, 0.0 / 0.0⟩ corpus "mail" 5).length = 0 := by
  intro corpus found
  let scoreOf (text : String) := Bm25.default.score corpus (tokenize "mail") (.ofText text)
  have hmail : 0.0 < scoreOf "mail" := by decide +kernel
  have hlog : ¬ 0.0 < scoreOf "log" := by decide +kernel
  obtain ⟨⟨ranking, hranking, -, -, hone⟩, -, -, -, hlengthOne, hlarger, hbehind, -⟩ :=
    search_ranking Bm25.default [["mail", "log"], ["mail"]] "mail" 1
  obtain ⟨-, -, -, -, hlengthFive, -⟩ :=
    search_ranking Bm25.default [["mail", "log"], ["mail"]] "mail" 5
  obtain ⟨-, -, -, -, hlengthNone, -⟩ :=
    search_ranking ⟨0.0 / 0.0, 0.0 / 0.0⟩ [["mail", "log"], ["mail"]] "mail" 5
  have hlength : (found 1).length = 1 := hlengthOne.trans (by decide +kernel)
  refine ⟨hlength, fun s hs => ?_, hlengthFive.trans (by decide +kernel), hlarger 5 (by decide),
    hlengthNone.trans (by decide +kernel)⟩
  -- If the earlier text were left out, the other one would stand before it.
  let first : Scored Float := ⟨0, scoreOf "mail"⟩
  by_contra hposition
  have hnot : first ∉ found 1 := by
    intro hfirst
    obtain ⟨only, honly⟩ := List.length_eq_one_iff.mp hlength
    rw [honly, List.mem_singleton] at hfirst hs
    exact hposition (hs.trans hfirst.symm ▸ rfl)
  have hprecedes : s.Precedes first := hbehind first ⟨"mail", rfl, rfl, hmail⟩ hnot s hs
  have hranked : s ∈ ranking.take 1 := by
    rw [← hone]
    exact hs
  obtain ⟨text, htext, hscore, hpos⟩ := (hranking s).mp (List.mem_of_mem_take hranked)
  have htexts : text ∈ ["mail", "log", "mail"] := List.mem_of_getElem? htext
  have hsame : s.score = scoreOf "mail" := by
    simp only [List.mem_cons, List.not_mem_nil, or_false] at htexts
    rcases htexts with rfl | rfl | rfl
    · exact hscore
    · rw [hscore] at hpos
      exact absurd hpos hlog
    · exact hscore
  rcases hprecedes with hkey | ⟨-, hlt⟩
  · rw [Scored.key, Scored.key, hsame] at hkey
    exact absurd hkey (Int.lt_irrefl _)
  · exact absurd hlt (Nat.not_lt_zero _)

end Bm25

end ToolDiscovery
