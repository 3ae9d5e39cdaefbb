import ToolDiscovery.Relevance.Bm25

/-!
# What a corpus counts

A corpus counts the documents that are added and computes from the counts what the formulas of
relevance need. `Corpus.Counts` says which texts the counts are of, and one more text keeps it so;
`Corpus.Describes` says that what has been computed is of these texts too, and one more batch keeps
it so. It all depends on the texts together, and not on the batches in which they came:
`Corpus.statistics_of_batches`.
-/

namespace ToolDiscovery

open Text (tokenize)

/-! ## Tables of counts -/

namespace TokenCounts

/-- An entry of a table after so many more occurrences. Without any there is no new entry. -/
def entryAfter (entry : Option Nat) (more : Nat) : Option Nat :=
  if more = 0 then entry else some (entry.getD 0 + more)

theorem entryAfter_add (entry : Option Nat) (first second : Nat) :
    entryAfter (entryAfter entry first) second = entryAfter entry (first + second) := by
  unfold entryAfter
  by_cases hfirst : first = 0
  · simp [hfirst]
  · by_cases hsecond : second = 0
    · simp [hsecond]
    · simp [hfirst, hsecond, Nat.add_assoc]

/-- A table that starts empty has an entry for what occurs, and no other. -/
theorem entryAfter_none_eq_some {more count : Nat} :
    entryAfter none more = some count ↔ 0 < more ∧ count = more := by
  unfold entryAfter
  by_cases hmore : more = 0
  · simp [hmore]
  · simp [hmore, Nat.pos_iff_ne_zero, eq_comm]

theorem getElem?_count (counts : TokenCounts) (counted token : String) :
    (counts.count counted)[token]? =
      entryAfter counts[token]? (if counted = token then 1 else 0) := by
  unfold TokenCounts.count
  rw [Std.TreeMap.getElem?_alter]
  by_cases hsame : counted = token
  · subst hsame
    simp [entryAfter]
  · simp [entryAfter, hsame]

/-- Counting tokens adds to each entry how often its token is among them. -/
theorem getElem?_foldl_count (tokens : List String) (counts : TokenCounts) (token : String) :
    (tokens.foldl TokenCounts.count counts)[token]? =
      entryAfter counts[token]? (tokens.count token) := by
  induction tokens generalizing counts with
  | nil => rfl
  | cons first rest ih =>
      rw [List.foldl_cons, ih, getElem?_count, entryAfter_add, List.count_cons, Nat.add_comm]
      simp only [beq_iff_eq]

end TokenCounts

open TokenCounts (entryAfter)

namespace Document

theorem getElem?_counts (tokens : List String) (token : String) :
    (ofTokens tokens).counts[token]? = entryAfter none (tokens.count token) := by
  show (tokens.foldl TokenCounts.count ∅)[token]? = _
  rw [TokenCounts.getElem?_foldl_count, Std.TreeMap.getElem?_emptyc]

/-- No token of a document occurs more often than it has tokens. -/
theorem count_le_length {tokens : List String} {token : String} {count : Nat}
    (h : (ofTokens tokens).counts[token]? = some count) : count ≤ (ofTokens tokens).length := by
  rw [getElem?_counts, TokenCounts.entryAfter_none_eq_some] at h
  rw [h.2]
  exact List.count_le_length

/-- Each token of a document is among its keys once, however often it occurs. -/
theorem count_keys (tokens : List String) (token : String) :
    (ofTokens tokens).counts.keys.count token = if token ∈ tokens then 1 else 0 := by
  have hnodup : (ofTokens tokens).counts.keys.Nodup :=
    Std.TreeMap.distinct_keys.imp fun hkeys hsame =>
      hkeys (Std.LawfulEqCmp.compare_eq_iff_eq.mpr hsame)
  have hmem : token ∈ (ofTokens tokens).counts.keys ↔ token ∈ tokens := by
    rw [Std.TreeMap.mem_keys, Std.TreeMap.mem_iff_isSome_getElem?, getElem?_counts,
      Option.isSome_iff_exists]
    simp [TokenCounts.entryAfter_none_eq_some, List.count_pos_iff]
  rw [hnodup.count]
  simp only [hmem]

end Document

/-! ## Batches of texts -/

namespace Corpus

variable {α : Type} [Arithmetic α] {corpus : Corpus α} {texts : List String} {token : String}

/-- What is computed from the counts has been computed from the present ones. -/
def Current (corpus : Corpus α) : Prop := corpus.refresh = corpus

/-- Adds documents. Nothing is computed from the new counts yet. -/
def pushAll (corpus : Corpus α) (texts : List String) : Corpus α :=
  texts.foldl (fun corpus text => corpus.push (.ofText text)) corpus

theorem current_empty : Current ({} : Corpus α) := rfl

theorem current_add (corpus : Corpus α) (texts : List String) : (corpus.add texts).Current := rfl

/-- What is computed after a batch depends on nothing before it but the counts. -/
theorem refresh_pushAll_congr {other : Corpus α} (hdocuments : corpus.documents = other.documents)
    (hcounts : corpus.documentCounts = other.documentCounts) (texts : List String) :
    (corpus.pushAll texts).refresh = (other.pushAll texts).refresh := by
  induction texts generalizing corpus other with
  | nil =>
      cases corpus
      cases other
      cases hdocuments
      cases hcounts
      rfl
  | cons text rest ih =>
      refine ih ?_ ?_
      · show corpus.documents.push _ = other.documents.push _
        rw [hdocuments]
      · show _ = (Document.ofText text).counts.keys.foldl TokenCounts.count other.documentCounts
        rw [← hcounts]
        rfl

/-- Two batches are one. -/
theorem add_append (corpus : Corpus α) (texts more : List String) :
    corpus.add (texts ++ more) = (corpus.add texts).add more := by
  have hdiscarded : ((corpus.pushAll texts).refresh.pushAll more).refresh =
      ((corpus.pushAll texts).pushAll more).refresh := refresh_pushAll_congr (by rfl) (by rfl) more
  have happend : corpus.pushAll (texts ++ more) = (corpus.pushAll texts).pushAll more :=
    List.foldl_append
  show (corpus.pushAll (texts ++ more)).refresh = _
  rw [happend, ← hdiscarded]
  rfl

/-- Adding batches adds all their texts. -/
theorem foldl_add (h : corpus.Current) (batches : List (List String)) :
    batches.foldl add corpus = corpus.add batches.flatten := by
  induction batches generalizing corpus with
  | nil => exact h.symm
  | cons batch rest ih =>
      rw [List.foldl_cons, ih (current_add corpus batch), List.flatten_cons, add_append]

/-! ## Counts -/

/-- In how many texts a token occurs. -/
def textsWith (texts : List String) (token : String) : Nat :=
  texts.countP fun text => token ∈ tokenize text

/-- The counts of a corpus are those of the given texts. -/
structure Counts (corpus : Corpus α) (texts : List String) : Prop where
  /-- There is one document for each text, in the same order. -/
  documents : corpus.documents.toList = texts.map Document.ofText
  /-- A text counts once for each token that occurs in it. -/
  documentCounts : ∀ token,
    corpus.documentCounts[token]? = entryAfter none (textsWith texts token)

/-- The lengths of documents add up to the number of all tokens. -/
theorem foldl_length_ofText (texts : List String) (count : Nat) :
    (texts.map Document.ofText).foldl (fun count document => count + document.length) count =
      count + (texts.flatMap tokenize).length := by
  induction texts generalizing count with
  | nil => rfl
  | cons text rest ih =>
      rw [List.map_cons, List.foldl_cons, ih, List.flatMap_cons, List.length_append, Nat.add_assoc]
      rfl

theorem textsWith_pos : 0 < textsWith texts token ↔ ∃ text ∈ texts, token ∈ tokenize text := by
  rw [textsWith, List.countP_pos_iff]
  simp

namespace Counts

theorem empty : Counts ({} : Corpus α) [] where
  documents := rfl
  documentCounts _ := Std.TreeMap.getElem?_emptyc

theorem push (h : corpus.Counts texts) (text : String) :
    (corpus.push (.ofText text)).Counts (texts ++ [text]) where
  documents := by
    show (corpus.documents.push (.ofText text)).toList = _
    rw [Array.toList_push, h.documents, List.map_append]
    rfl
  documentCounts token := by
    show ((Document.ofText text).counts.keys.foldl TokenCounts.count
      corpus.documentCounts)[token]? = _
    have hkeys := Document.count_keys (tokenize text) token
    rw [TokenCounts.getElem?_foldl_count, h.documentCounts, TokenCounts.entryAfter_add,
      show (Document.ofText text).counts.keys.count token = _ from hkeys]
    simp [textsWith, List.countP_cons]

theorem pushAll (h : corpus.Counts texts) (more : List String) :
    (corpus.pushAll more).Counts (texts ++ more) := by
  induction more generalizing corpus texts with
  | nil =>
      rw [List.append_nil]
      exact h
  | cons text rest ih =>
      have hrest := ih (h.push text)
      rwa [List.append_assoc] at hrest

theorem size_eq (h : corpus.Counts texts) : corpus.size = texts.length := by
  rw [size, ← Array.length_toList, h.documents, List.length_map]

theorem tokenCount_eq (h : corpus.Counts texts) :
    corpus.tokenCount = (texts.flatMap tokenize).length := by
  rw [tokenCount, ← Array.foldl_toList, h.documents, foldl_length_ofText, Nat.zero_add]

/-- What is known of a document are the counts of its own tokens. -/
theorem document_eq (h : corpus.Counts texts) {position : Nat} {text : String}
    (htext : texts[position]? = some text) :
    corpus.documents[position]? = some (.ofText text) := by
  rw [← Array.getElem?_toList, h.documents, List.getElem?_map, htext]
  rfl

theorem documentCounts_eq_some (h : corpus.Counts texts) {count : Nat} :
    corpus.documentCounts[token]? = some count ↔
      (∃ text ∈ texts, token ∈ tokenize text) ∧ count = textsWith texts token := by
  rw [h.documentCounts, TokenCounts.entryAfter_none_eq_some, textsWith_pos]

end Counts

/-! ## What is computed from the counts -/

open Arithmetic in
/-- The counts of a corpus are those of the given texts, and so is what has been computed. -/
structure Describes (corpus : Corpus α) (texts : List String) : Prop where
  /-- The counts are those of all texts. -/
  counts : corpus.Counts texts
  /-- The average length is that of all texts. -/
  averageLength : corpus.averageLength =
    if texts = [] then ofNat 0 else ofNat (texts.flatMap tokenize).length / ofNat texts.length
  /-- A token has a weight if it occurs, and the weight is that of the present counts. -/
  idf? : ∀ token weight, corpus.idf? token = some weight ↔
    (∃ text ∈ texts, token ∈ tokenize text) ∧
      weight = log ((ofNat texts.length - ofNat (textsWith texts token) + half) /
        (ofNat (textsWith texts token) + half) + ofNat 1)

/-- What is computed from the counts is that of the texts that have been counted. -/
theorem Counts.describes_refresh (h : corpus.Counts texts) : corpus.refresh.Describes texts where
  counts := ⟨h.documents, h.documentCounts⟩
  averageLength := by
    show (if corpus.size = 0 then _ else _) = _
    rw [h.size_eq, h.tokenCount_eq]
    simp only [List.length_eq_zero_iff]
  idf? token weight := by
    show (corpus.documentCounts.map fun _ documents => corpus.rarity documents)[token]? = _ ↔ _
    rw [Std.TreeMap.getElem?_map, Option.map_eq_some_iff]
    constructor
    · rintro ⟨count, hcount, rfl⟩
      obtain ⟨hoccurs, rfl⟩ := h.documentCounts_eq_some.mp hcount
      exact ⟨hoccurs, by rw [rarity, h.size_eq]⟩
    · rintro ⟨hoccurs, rfl⟩
      exact ⟨_, h.documentCounts_eq_some.mpr ⟨hoccurs, rfl⟩, by rw [rarity, h.size_eq]⟩

namespace Describes

theorem empty : Describes ({} : Corpus α) [] := Counts.empty.describes_refresh

/-- A batch that is added to a corpus is counted, and everything is computed anew. -/
theorem add (h : corpus.Describes texts) (more : List String) :
    (corpus.add more).Describes (texts ++ more) :=
  (h.counts.pushAll more).describes_refresh

theorem of_add (texts : List String) : (Corpus.add {} texts : Corpus α).Describes texts :=
  empty.add texts

/-- Whatever batches come, a corpus describes all texts so far. -/
theorem addBatches (h : corpus.Describes texts) (batches : List (List String)) :
    (batches.foldl Corpus.add corpus).Describes (texts ++ batches.flatten) := by
  induction batches generalizing corpus texts with
  | nil =>
      rw [List.flatten_nil, List.append_nil]
      exact h
  | cons batch rest ih =>
      have hrest := ih (h.add batch)
      rwa [List.append_assoc] at hrest

end Describes

open Arithmetic in
/-- Whatever the batches are in which texts are added, the counts are those of all texts so far: a
document has the counts of its own tokens, and a token is counted once for each text in which it
occurs. What is computed from the counts is up to date: a token has a weight if it occurs at all,
the weight is that of the present counts, and the average length is that of all texts. No statistic
and no search can tell how the texts were divided. -/
theorem statistics_of_batches {α : Type} [Arithmetic α] (parameters : Bm25 α)
    (batches : List (List String)) :
    let texts := batches.flatten
    let corpus : Corpus α := batches.foldl add {}
    corpus.size = texts.length ∧
    (∀ (position : Nat) text, texts[position]? = some text → ∃ document,
      corpus.documents[position]? = some document ∧
      document.length = (tokenize text).length ∧
      ∀ (token : String) count, document.counts[token]? = some count ↔
        token ∈ tokenize text ∧ count = (tokenize text).count token) ∧
    (∀ (token : String) count, corpus.documentCounts[token]? = some count ↔
      (∃ text ∈ texts, token ∈ tokenize text) ∧ count = textsWith texts token) ∧
    (∀ (token : String) count, corpus.documentCounts[token]? = some count →
      1 ≤ count ∧ count ≤ corpus.size) ∧
    (∀ token weight, corpus.idf? token = some weight ↔
      (∃ text ∈ texts, token ∈ tokenize text) ∧
        weight = log ((ofNat texts.length - ofNat (textsWith texts token) + half) /
          (ofNat (textsWith texts token) + half) + ofNat 1)) ∧
    corpus.averageLength =
      (if texts = [] then ofNat 0 else ofNat (texts.flatMap tokenize).length / ofNat texts.length) ∧
    ∀ others : List (List String), others.flatten = texts →
      let other : Corpus α := others.foldl add {}
      other.size = corpus.size ∧ other.averageLength = corpus.averageLength ∧
      (∀ token, other.idf? token = corpus.idf? token) ∧
      ∀ query limit,
        parameters.search other query limit = parameters.search corpus query limit := by
  intro texts corpus
  have hdescribes : corpus.Describes texts := Describes.empty.addBatches batches
  have hcounts := hdescribes.counts
  have hsize : corpus.size = texts.length := hcounts.size_eq
  refine ⟨hsize, fun position text htext => ?_, fun token count => hcounts.documentCounts_eq_some,
    fun token count hcount => ?_, hdescribes.idf?, hdescribes.averageLength,
    fun others hothers => ?_⟩
  · refine ⟨.ofText text, hcounts.document_eq htext, rfl, fun token count => ?_⟩
    show (Document.ofTokens (tokenize text)).counts[token]? = some count ↔ _
    rw [Document.getElem?_counts, TokenCounts.entryAfter_none_eq_some, List.count_pos_iff]
  · obtain ⟨hoccurs, rfl⟩ := hcounts.documentCounts_eq_some.mp hcount
    exact ⟨textsWith_pos.mpr hoccurs, hsize ▸ List.countP_le_length⟩
  · -- Batches of the same texts make the same corpus, so nothing can tell them apart.
    have hsame : others.foldl add {} = corpus := by
      rw [foldl_add current_empty, hothers, ← foldl_add current_empty]
    rw [hsame]
    exact ⟨rfl, rfl, fun _ => rfl, fun _ _ => rfl⟩

open Arithmetic in
/-- A token that occurs twice in one text counts once. When texts without it follow, even an empty
one, its weight is that of the larger corpus. -/
theorem statistics_of_batches_refreshed :
    let corpus : Corpus := [["mail mail"], [], ["log", ""]].foldl add {}
    corpus.documentCounts["mail"]? = some 1 ∧
    corpus.idf? "mail" =
      some (log ((ofNat 3 - ofNat 1 + half) / (ofNat 1 + half) + ofNat 1) : Float) ∧
    ∀ query limit, Bm25.default.search ([["mail mail", "log"], [""]].foldl add {}) query limit =
      Bm25.default.search corpus query limit := by
  intro corpus
  obtain ⟨-, -, hcounts, -, hweights, -, hbatches⟩ :=
    statistics_of_batches Bm25.default [["mail mail"], [], ["log", ""]]
  have htokens : ["mail mail", "log", ""].map tokenize = [["mail", "mail"], ["log"], []] := by
    decide +kernel
  have hoccurs : ∃ text ∈ ["mail mail", "log", ""], "mail" ∈ tokenize text :=
    ⟨"mail mail", List.mem_cons_self, by simp_all⟩
  have hcount : textsWith ["mail mail", "log", ""] "mail" = 1 := by
    simp only [List.map_cons, List.cons.injEq] at htokens
    simp [textsWith, htokens]
  refine ⟨(hcounts "mail" 1).mpr ⟨hoccurs, hcount.symm⟩,
    (hweights "mail" _).mpr ⟨hoccurs, ?_⟩, (hbatches [["mail mail", "log"], [""]] rfl).2.2.2⟩
  show _ = log ((ofNat 3 - ofNat (textsWith ["mail mail", "log", ""] "mail") + half) /
    (ofNat (textsWith ["mail mail", "log", ""] "mail") + half) + ofNat 1)
  rw [hcount]

end Corpus

end ToolDiscovery
