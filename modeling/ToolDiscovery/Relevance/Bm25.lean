import ToolDiscovery.Relevance.Corpus
import ToolDiscovery.Relevance.Ranking

/-!
# Relevance of documents

How well a document answers a query is the sum over the tokens of the query of how much each token
says. A token says more if it is rare in the corpus and frequent in the document, and less if the
document is long. This is the measure known as Okapi BM25, and its two parameters are known as `k1`
and `b`.
-/

namespace ToolDiscovery

open Arithmetic

/-- The parameters of the measure. -/
structure Bm25 (α : Type) where
  /-- How slowly further occurrences of a token in a document lose their weight. -/
  k1 : α
  /-- How much the length of a document counts. -/
  b : α

/-- The parameters of catalog search. -/
def Bm25.default : Bm25 Float := ⟨1.5, 0.75⟩

variable {α : Type} [Arithmetic α]

namespace Bm25

/-- How much the occurrences in a document lose for its length. In a corpus without tokens lengths
cannot be compared. -/
def lengthNorm (parameters : Bm25 α) (corpus : Corpus α) (document : Document) : α :=
  if isPositive corpus.averageLength then
    parameters.k1 * (ofNat 1 - parameters.b +
      parameters.b * ofNat document.length / corpus.averageLength)
  else parameters.k1

/-- How much a token says about a document in which it occurs `count` times. -/
def tokenScore (parameters : Bm25 α) (corpus : Corpus α) (document : Document) (token : String)
    (count : Nat) : α :=
  (corpus.idf? token).getD (ofNat 0) * ofNat count * (parameters.k1 + ofNat 1) /
    (ofNat count + parameters.lengthNorm corpus document)

/-- How well a document answers a query with the given tokens. Tokens that do not occur in it add
nothing. -/
def score (parameters : Bm25 α) (corpus : Corpus α) (query : List String) (document : Document) :
    α :=
  query.foldl
    (fun sum token =>
      match document.counts[token]? with
      | some count => sum + parameters.tokenScore corpus document token count
      | none => sum)
    (ofNat 0)

/-- The documents that answer a query, with their scores. -/
def answers (parameters : Bm25 α) (corpus : Corpus α) (query : List String) : List (Scored α) :=
  corpus.documents.toList.zipIdx.filterMap fun (document, position) =>
    let score := parameters.score corpus query document
    if isPositive score then some ⟨position, score⟩ else none

/-- The documents that best answer a query. -/
def search (parameters : Bm25 α) (corpus : Corpus α) (query : String) (limit : Nat) :
    List (Scored α) :=
  Scored.best limit (parameters.answers corpus (Text.tokenize query))

end Bm25

end ToolDiscovery
