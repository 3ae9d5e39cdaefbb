import Std.Data.TreeMap
import ToolDiscovery.Relevance.Arithmetic
import ToolDiscovery.Text.Token

/-!
# Counting words

A `Corpus` holds for each of its documents how often every token occurs in it, and for all of them
together in how many documents a token occurs. What the formulas of relevance make of these counts
is kept too: how much each token says, and how long the documents are on average. Documents are only
ever added, and whenever some have been, this is computed anew.
-/

namespace ToolDiscovery

open Arithmetic

/-- How often each token occurs; tokens that do not occur are left out. The counts have no bound.
Those of a document are at most its length, so counters of 32 bits agree with them as long as a
document has fewer than `2 ^ 32` tokens. -/
abbrev TokenCounts := Std.TreeMap String Nat

/-- Counts one more occurrence of a token. -/
def TokenCounts.count (counts : TokenCounts) (token : String) : TokenCounts :=
  counts.alter token fun n => some (n.getD 0 + 1)

/-- What is known of a document. -/
structure Document where
  /-- The number of its tokens. -/
  length : Nat
  /-- How often each token occurs in it. -/
  counts : TokenCounts

/-- The document with the given tokens. -/
def Document.ofTokens (tokens : List String) : Document where
  length := tokens.length
  counts := tokens.foldl TokenCounts.count ∅

/-- A document for a text. -/
def Document.ofText (text : String) : Document := .ofTokens (Text.tokenize text)

/-- Documents with the counts over all of them and what is computed from the counts. -/
structure Corpus (α : Type := Float) [Arithmetic α] where
  /-- The documents in the order in which they were added. -/
  documents : Array Document := #[]
  /-- In how many documents each token occurs. -/
  documentCounts : TokenCounts := ∅
  /-- The average length of the documents, which is zero if there are none. -/
  averageLength : α := ofNat 0
  /-- How much each token of the documents says. -/
  weights : Std.TreeMap String α := ∅

namespace Corpus

variable {α : Type} [Arithmetic α]

/-- The number of documents. -/
def size (corpus : Corpus α) : Nat := corpus.documents.size

/-- The number of tokens of all documents. -/
def tokenCount (corpus : Corpus α) : Nat :=
  corpus.documents.foldl (fun count document => count + document.length) 0

/-- How much a token says that occurs in the given number of documents. -/
def rarity (corpus : Corpus α) (documents : Nat) : α :=
  log ((ofNat corpus.size - ofNat documents + half) / (ofNat documents + half) + ofNat 1)

/-- How much a token says, if it occurs in a document. -/
def idf? (corpus : Corpus α) (token : String) : Option α := corpus.weights[token]?

/-- Adds a document. Nothing is computed from the new counts yet. -/
def push (corpus : Corpus α) (document : Document) : Corpus α :=
  { corpus with
    documents := corpus.documents.push document
    documentCounts := document.counts.keys.foldl TokenCounts.count corpus.documentCounts }

/-- Computes the average length and the weights from the counts. What they were before is
discarded. -/
def refresh (corpus : Corpus α) : Corpus α :=
  { corpus with
    averageLength :=
      if corpus.size = 0 then ofNat 0 else ofNat corpus.tokenCount / ofNat corpus.size
    weights := corpus.documentCounts.map fun _ documents => corpus.rarity documents }

/-- Adds a document for each of several texts. -/
def add (corpus : Corpus α) (texts : List String) : Corpus α :=
  (texts.foldl (fun corpus text => corpus.push (.ofText text)) corpus).refresh

end Corpus

end ToolDiscovery
