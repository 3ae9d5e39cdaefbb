import ToolDiscovery.Proofs.HybridSums

/-!
# When hybrid searches rank by complete sums

A hybrid search adds what is left of two rankings after each has been cut to twice the limit. It
agrees with the ranking by complete sums as long as every tool that belongs among the first keeps
its score: `search_hybrid_iff`. Three tools are enough for a search that does not:
`search_hybrid_differs`.
-/

namespace ToolDiscovery.CatalogIndex

open Scored (at?)

variable {index : CatalogIndex} {query : String} {pattern : Pattern.Expr} {s : Scored Float}
  {position limit window : Nat} {score : Float}

/-! ## What the cuts change -/

/-- The complete sum at a position. -/
def complete (index : CatalogIndex) (query : String) (pattern : Pattern.Expr) (s : Scored Float) :
    Scored Float where
  position := s.position
  score := (fusedScore? (index.wordScore? query s.position)
    (index.patternScore? pattern s.position)).getD 0.0

/-- A part of a complete sum stands in for it. -/
theorem complete_of_part {cutWords cutPattern : Option Float} (hlt : s.position < index.size)
    (hwords : ∀ score, cutWords = some score → index.wordScore? query s.position = some score)
    (hpattern : ∀ score, cutPattern = some score →
      index.patternScore? pattern s.position = some score)
    (h : fusedScore? cutWords cutPattern = some score) :
    index.complete query pattern s ∈ index.fusedMatches query pattern ∧
      totalOrderKey score ≤ (index.complete query pattern s).key := by
  obtain ⟨full, hfull, hle⟩ := fusedScore?_le hwords hpattern (fun _ => wordScore?_pos)
    (fun _ => weighted_pos) h
  have hcomplete : index.complete query pattern s = ⟨s.position, full⟩ := by
    rw [complete, hfull]
    rfl
  rw [hcomplete]
  exact ⟨mem_fuse.mpr ⟨hlt, hfull⟩, hle⟩

/-- A tool that belongs among the first and matches by words only is not cut. -/
theorem mem_cutMatches_of_words (hbuilt : Built index)
    (hs : s ∈ Scored.best limit (index.fusedMatches query pattern)) (hwindow : limit ≤ window)
    (hpattern : index.patternScore? pattern s.position = none) :
    s ∈ index.cutMatches query pattern window := by
  obtain ⟨hlt, hscore⟩ := mem_fuse.mp (Scored.mem_of_mem_best hs)
  rw [hpattern] at hscore
  cases hwords : index.wordScore? query s.position with
  | none =>
      rw [hwords] at hscore
      cases hscore
  | some words =>
      have hpos : 0.0 < words := wordScore?_pos hwords
      rw [hwords, fusedScore?_words hpos, Option.some.injEq] at hscore
      subst hscore
      have hanswer : s ∈ Bm25.default.answers index.corpus (Text.tokenize query) :=
        mem_answers.mpr hwords
      have hranked : s ∈ index.rankWords query window := by
        refine Scored.mem_best_of_mem_best Bm25.distinct_answers (distinct_fuse _ _ _) hs hanswer
          rfl (index.complete query pattern) (fun t ht hbefore => ?_) hwindow
        have htwords : index.wordScore? query t.position = some t.score := mem_answers.mp ht
        obtain ⟨hmem, hle⟩ := complete_of_part (lt_size_of_wordScore? hbuilt htwords)
          (fun score h => by rw [← h, htwords])
          (show ∀ score, none = some score → index.patternScore? pattern _ = some score from
            fun score h => by cases h) (fusedScore?_words (wordScore?_pos htwords))
        exact ⟨hmem, rfl, Scored.ranksBefore_of_key_le hbefore rfl hle⟩
      rw [cutMatches, mem_fuse, (Scored.at?_eq_some distinct_rankWords).mpr hranked,
        at?_rankPattern_eq_none hpattern]
      exact ⟨hlt, fusedScore?_words hpos⟩

/-- The weight of patterns keeps the order of their scores. -/
theorem weighted_key {p q : Float}
    (hp : p = IndexEntry.nameScore ∨ p = IndexEntry.textScore)
    (hq : q = IndexEntry.nameScore ∨ q = IndexEntry.textScore) :
    (totalOrderKey p < totalOrderKey q →
      totalOrderKey (patternWeight * p) < totalOrderKey (patternWeight * q)) ∧
    (totalOrderKey p = totalOrderKey q →
      totalOrderKey (patternWeight * p) = totalOrderKey (patternWeight * q)) := by
  rcases hp with rfl | rfl <;> rcases hq with rfl | rfl <;> decide +kernel

/-- A tool that belongs among the first and matches as a pattern only is not cut. -/
theorem mem_cutMatches_of_pattern
    (hs : s ∈ Scored.best limit (index.fusedMatches query pattern)) (hwindow : limit ≤ window)
    (hwords : index.wordScore? query s.position = none) :
    s ∈ index.cutMatches query pattern window := by
  obtain ⟨hlt, hscore⟩ := mem_fuse.mp (Scored.mem_of_mem_best hs)
  rw [hwords] at hscore
  cases hpattern : index.patternScore? pattern s.position with
  | none =>
      rw [hpattern] at hscore
      cases hscore
  | some score =>
      have hpos : 0.0 < patternWeight * score := weighted_pos hpattern
      rw [hpattern, fusedScore?_pattern hpos, Option.some.injEq] at hscore
      have hmatch : ⟨s.position, score⟩ ∈ index.patternMatches pattern :=
        mem_patternMatches.mpr hpattern
      have hranked : ⟨s.position, score⟩ ∈ index.rankPattern pattern window := by
        refine Scored.mem_best_of_mem_best distinct_patternMatches (distinct_fuse _ _ _) hs hmatch
          rfl (index.complete query pattern) (fun t ht hbefore => ?_) hwindow
        have htpattern : index.patternScore? pattern t.position = some t.score :=
          mem_patternMatches.mp ht
        obtain ⟨hmem, hle⟩ := complete_of_part (lt_size_of_patternScore? htpattern)
          (show ∀ score, none = some score → index.wordScore? query _ = some score from
            fun score h => by cases h)
          (fun score h => by rw [← h, htpattern]) (fusedScore?_pattern (weighted_pos htpattern))
        refine ⟨hmem, rfl, ?_⟩
        -- The sums carry the weight, the ranking of the pattern does not.
        have hkeys := weighted_key (patternScore?_cases hpattern) (patternScore?_cases htpattern)
        have hskey : s.key = totalOrderKey (patternWeight * score) := by
          rw [Scored.key, ← hscore]
        have hposition : (index.complete query pattern t).position = t.position := rfl
        rw [Scored.ranksBefore_iff] at hbefore ⊢
        rcases hbefore with hhigher | ⟨hsame, hfirst⟩
        · have hweighted := hkeys.1 hhigher
          omega
        · have hweighted := hkeys.2 hsame
          have hfirst : t.position ≤ s.position := hfirst
          omega
      rw [cutMatches, mem_fuse, (Scored.at?_eq_some distinct_rankPattern).mpr hranked,
        at?_rankWords_eq_none hwords]
      exact ⟨hlt, hscore ▸ fusedScore?_pattern hpos⟩

/-- The best of what the cuts leave are the best by complete sums if these keep their scores. -/
theorem best_cutMatches_iff :
    Scored.best limit (index.cutMatches query pattern window) =
        Scored.best limit (index.fusedMatches query pattern) ↔
      ∀ s ∈ Scored.best limit (index.fusedMatches query pattern),
        s ∈ index.cutMatches query pattern window := by
  refine Scored.best_eq_iff (distinct_fuse _ _ _) (distinct_fuse _ _ _) fun s hs => ?_
  obtain ⟨hlt, hscore⟩ := mem_fuse.mp hs
  obtain ⟨hmem, hle⟩ := complete_of_part hlt (fun _ => wordScore?_of_at?)
    (fun _ => patternScore?_of_at?) hscore
  exact ⟨_, hmem, rfl, hle⟩

/-- If there is room for all matches, nothing is cut. -/
theorem cutMatches_eq
    (hwords : (Bm25.default.answers index.corpus (Text.tokenize query)).length ≤ window)
    (hpattern : (index.patternMatches pattern).length ≤ window) :
    index.cutMatches query pattern window = index.fusedMatches query pattern := by
  have hallWords : at? (index.rankWords query window) = index.wordScore? query := by
    funext position
    apply Option.ext
    intro score
    rw [Scored.at?_eq_some distinct_rankWords]
    exact (Scored.mem_best_of_length_le hwords).trans mem_answers
  have hallPattern : at? (index.rankPattern pattern window) = index.patternScore? pattern := by
    funext position
    apply Option.ext
    intro score
    rw [Scored.at?_eq_some distinct_rankPattern]
    exact (Scored.mem_best_of_length_le hpattern).trans mem_patternMatches
  rw [cutMatches, hallWords, hallPattern]
  rfl

/-! ## A search that the cuts change -/

/-- A tool of which only the name is known. -/
def namedTool (name : String) : ToolDefinition where
  name := name
  description := ""
  parameters := ToolDefinition.emptyParameters

/-- Three tools in whose names the pattern `log` occurs; only the last name has it as a word. -/
def logIndex : CatalogIndex :=
  ["catalog", "dialog", "log"].foldl
    (fun index name => index.push (.ofDefinition (namedTool name))) {}

/-- The query that finds all three tools as a pattern and one of them by words. -/
def logPattern : Pattern.Expr := .compile "log"

theorem logIndex_built : Built logIndex :=
  @Built.add {} _ (["catalog", "dialog", "log"].map namedTool) .empty
    (add_of_le Corpus.current_empty (by decide))

theorem logPattern_occursIn :
    ["catalog", "dialog", "log"].all (logPattern.occursIn ·.toList) = true := by
  have hparsed : (Pattern.Expr.parse? "log").map
      (fun e => ["catalog", "dialog", "log"].all (e.occursIn ·.toList)) = some true := by
    decide +kernel
  have hliteral : ["catalog", "dialog", "log"].all
      ((Pattern.Expr.literal "log".toList).occursIn ·.toList) = true := by decide +kernel
  unfold logPattern Pattern.Expr.compile
  cases hparse : Pattern.Expr.parse? "log" with
  | none => exact hliteral
  | some e =>
      rw [hparse] at hparsed
      by_cases hfits : e.layout.fits
      · simp only [if_pos hfits]
        exact Option.some.inj hparsed
      · simp only [if_neg hfits]
        exact hliteral

theorem logIndex_patternScore? (h : position < 3) :
    logIndex.patternScore? logPattern position = some IndexEntry.nameScore := by
  have hsize : logIndex.entries.size = 3 := rfl
  have hlt : position < logIndex.entries.size := hsize ▸ h
  have hname : logIndex.entries[position].name ∈ ["catalog", "dialog", "log"] := by
    have hnames : logIndex.entries.toList.map (·.name) = ["catalog", "dialog", "log"] := by
      decide +kernel
    rw [← hnames]
    exact List.mem_map_of_mem (Array.getElem_mem_toList hlt)
  have hoccurs : logPattern.occursIn logIndex.entries[position].name.toList = true :=
    List.all_eq_true.mp logPattern_occursIn _ hname
  unfold patternScore?
  rw [Array.getElem?_eq_getElem hlt]
  show IndexEntry.patternScore? _ _ = _
  unfold IndexEntry.patternScore?
  rw [if_pos hoccurs]

/-- By words the first two of the three tools are not found. -/
theorem logIndex_wordScore?_eq_none (h : position < 3) (hne : position ≠ 2) :
    logIndex.wordScore? "log" position = none := by
  have hfirst : (logIndex.wordScore? "log" 0).isNone = true := by decide +kernel
  have hsecond : (logIndex.wordScore? "log" 1).isNone = true := by decide +kernel
  have hcases : position = 0 ∨ position = 1 := by omega
  rcases hcases with rfl | rfl
  · exact Option.isNone_iff_eq_none.mp hfirst
  · exact Option.isNone_iff_eq_none.mp hsecond

/-- The last tool is found by words, and each of its two scores matters in their sum. -/
theorem logIndex_wordScore?_last :
    ∃ score, logIndex.wordScore? "log" 2 = some score ∧
      totalOrderKey (0.0 + patternWeight * IndexEntry.nameScore) <
        totalOrderKey (score + patternWeight * IndexEntry.nameScore) ∧
      totalOrderKey (score + patternWeight * 0.0) <
        totalOrderKey (score + patternWeight * IndexEntry.nameScore) := by
  have hlast : (logIndex.wordScore? "log" 2).any (fun score =>
      totalOrderKey (0.0 + patternWeight * IndexEntry.nameScore) <
          totalOrderKey (score + patternWeight * IndexEntry.nameScore) ∧
        totalOrderKey (score + patternWeight * 0.0) <
          totalOrderKey (score + patternWeight * IndexEntry.nameScore)) = true := by
    decide +kernel
  obtain ⟨score, hscore, hkeys⟩ := (Option.any_eq_true _ _).mp hlast
  exact ⟨score, hscore, of_decide_eq_true hkeys⟩

theorem logIndex_size : logIndex.size = 3 := rfl

/-- Of the three tools the last one has the highest complete sum. -/
theorem logIndex_best {words : Float} (hwords : logIndex.wordScore? "log" 2 = some words)
    (hkey : totalOrderKey (0.0 + patternWeight * IndexEntry.nameScore) <
      totalOrderKey (words + patternWeight * IndexEntry.nameScore)) :
    ⟨2, words + patternWeight * IndexEntry.nameScore⟩ ∈
      Scored.best 1 (logIndex.fusedMatches "log" logPattern) := by
  let last : Scored Float := ⟨2, words + patternWeight * IndexEntry.nameScore⟩
  have hlast : last ∈ logIndex.fusedMatches "log" logPattern := by
    refine mem_fuse.mpr ⟨show 2 < logIndex.size by decide, ?_⟩
    show fusedScore? (logIndex.wordScore? "log" 2) (logIndex.patternScore? logPattern 2) = _
    rw [hwords, logIndex_patternScore? (show 2 < 3 by decide)]
    rfl
  -- Another best one would have to stand before it, but without a score for words none does.
  by_contra hnot
  obtain ⟨hbefore, hlength⟩ := Scored.not_mem_best hlast hnot
  obtain ⟨s, hs⟩ := List.exists_mem_of_length_pos (hlength ▸ Nat.one_pos)
  obtain ⟨hlt, hscore⟩ := mem_fuse.mp (Scored.mem_of_mem_best hs)
  rw [logIndex_size] at hlt
  rw [logIndex_patternScore? hlt] at hscore
  have hother : logIndex.wordScore? "log" s.position ≠ none := by
    intro hnone
    rw [hnone] at hscore
    have hskey : s.key = totalOrderKey (0.0 + patternWeight * IndexEntry.nameScore) := by
      rw [Scored.key, ← Option.some.inj hscore]
      rfl
    have hrank := hbefore s hs
    rw [Scored.ranksBefore_iff] at hrank
    have hlastKey : last.key = totalOrderKey (words + patternWeight * IndexEntry.nameScore) := rfl
    omega
  have hposition : s.position = 2 := by
    by_contra hne
    exact hother (logIndex_wordScore?_eq_none hlt hne)
  have hsame : s = last := (distinct_fuse _ _ _).eq (Scored.mem_of_mem_best hs) hlast hposition
  rw [hsame] at hs
  exact hnot hs

/-- The cut to two tools leaves no pattern score to the last one. -/
theorem logIndex_cut : at? (logIndex.rankPattern logPattern 2) 2 = none := by
  cases hat : at? (logIndex.rankPattern logPattern 2) 2 with
  | none => rfl
  | some score =>
      exfalso
      have hscore := patternScore?_of_at? hat
      rw [logIndex_patternScore? (by decide), Option.some.injEq] at hscore
      subst hscore
      -- The two tools before it have the same score, so they fill the window.
      have hbest := (Scored.at?_eq_some distinct_rankPattern).mp hat
      let earlier : List (Scored Float) :=
        [⟨0, IndexEntry.nameScore⟩, ⟨1, IndexEntry.nameScore⟩]
      have hearlier : ∀ t ∈ earlier, t ∈ logIndex.patternMatches logPattern ∧
          t.ranksBefore ⟨2, IndexEntry.nameScore⟩ ∧ t ≠ ⟨2, IndexEntry.nameScore⟩ := by
        intro t ht
        have hposition : t.position < 2 ∧ t.score = IndexEntry.nameScore := by
          rcases List.mem_cons.mp ht with rfl | ht
          · exact ⟨by decide, rfl⟩
          · rw [List.mem_singleton.mp ht]
            exact ⟨by decide, rfl⟩
        refine ⟨mem_patternMatches.mpr ?_, ?_, fun heq => ?_⟩
        · rw [logIndex_patternScore? (by omega), hposition.2]
        · rw [Scored.ranksBefore_iff, Scored.key, Scored.key, hposition.2]
          exact .inr ⟨rfl, Nat.le_of_lt hposition.1⟩
        · rw [heq] at hposition
          exact absurd hposition.1 (by decide)
      have hnodup : earlier.Nodup := List.Nodup.of_map (·.position) (by decide)
      exact absurd (Scored.length_lt_of_mem_best distinct_patternMatches hbest hnodup hearlier)
        (by decide)

/-- What the cuts to two tools leave is less than the highest complete sum. -/
theorem logIndex_cut_score {words : Float} {s : Scored Float}
    (hwords : logIndex.wordScore? "log" 2 = some words)
    (hs : s ∈ logIndex.cutMatches "log" logPattern 2) :
    s.score = 0.0 + patternWeight * IndexEntry.nameScore ∨
      s.score = words + patternWeight * 0.0 := by
  obtain ⟨hlt, hscore⟩ := mem_fuse.mp hs
  rw [logIndex_size] at hlt
  by_cases hposition : s.position = 2
  · right
    rw [hposition, logIndex_cut] at hscore
    cases hat : at? (logIndex.rankWords "log" 2) 2 with
    | none =>
        rw [hat] at hscore
        cases hscore
    | some score =>
        have hsame := (wordScore?_of_at? hat).symm.trans hwords
        rw [hat, hsame] at hscore
        exact (Option.some.inj hscore).symm
  · left
    rw [at?_rankWords_eq_none (logIndex_wordScore?_eq_none hlt hposition)] at hscore
    cases hat : at? (logIndex.rankPattern logPattern 2) s.position with
    | none =>
        rw [hat] at hscore
        cases hscore
    | some score =>
        have hsame := (patternScore?_of_at? hat).symm.trans (logIndex_patternScore? hlt)
        rw [hat, hsame] at hscore
        exact (Option.some.inj hscore).symm

theorem logIndex_cut_ne {words : Float} {s : Scored Float}
    (hwords : logIndex.wordScore? "log" 2 = some words)
    (hkey : totalOrderKey (0.0 + patternWeight * IndexEntry.nameScore) <
      totalOrderKey (words + patternWeight * IndexEntry.nameScore))
    (hkeyCut : totalOrderKey (words + patternWeight * 0.0) <
      totalOrderKey (words + patternWeight * IndexEntry.nameScore))
    (hs : s ∈ logIndex.cutMatches "log" logPattern 2) :
    s.score ≠ words + patternWeight * IndexEntry.nameScore := by
  intro hscore
  rcases logIndex_cut_score hwords hs with h | h
  · rw [← hscore, h] at hkey
    omega
  · rw [← hscore, h] at hkeyCut
    omega

/-! ## The two rankings -/

/-- A hybrid search ranks the sums of those scores that are among the best ones of their way, twice
as many as are wanted. This is the ranking by complete sums exactly if every tool that belongs among
the first keeps its score. Such a tool can only lose if it matches in both ways and if in one of
them more tools match than there is room for. -/
theorem search_hybrid_iff (hbuilt : Built index) (hquery : query.length ≤ Pattern.maxLength)
    (limit : Nat) :
    let pattern := Pattern.Expr.compile query
    let cut := index.cutMatches query pattern (2 * limit)
    let full := index.fusedMatches query pattern
    index.search query .hybrid limit = .ok (index.hits (Scored.best limit cut)) ∧
    (Scored.best limit cut = Scored.best limit full ↔ ∀ s ∈ Scored.best limit full, s ∈ cut) ∧
    (∀ s ∈ Scored.best limit full,
      index.wordScore? query s.position = none ∨ index.patternScore? pattern s.position = none →
      s ∈ cut) ∧
    ((Bm25.default.answers index.corpus (Text.tokenize query)).length ≤ 2 * limit →
      (index.patternMatches pattern).length ≤ 2 * limit → cut = full) := by
  intro pattern cut full
  refine ⟨search_hybrid_eq hbuilt hquery limit, best_cutMatches_iff, fun s hs hsingle => ?_,
    cutMatches_eq⟩
  have hwindow : limit ≤ 2 * limit := by omega
  rcases hsingle with hwords | hpattern
  · exact mem_cutMatches_of_pattern hs hwindow hwords
  · exact mem_cutMatches_of_words hbuilt hs hwindow hpattern

/-- Twice two is room enough for the matches of all three tools, twice one is not. -/
theorem search_hybrid_logIndex :
    logIndex.search "log" .hybrid 2 =
        .ok (logIndex.hits (Scored.best 2 (logIndex.fusedMatches "log" logPattern))) ∧
      Scored.best 1 (logIndex.cutMatches "log" logPattern 2) ≠
        Scored.best 1 (logIndex.fusedMatches "log" logPattern) := by
  obtain ⟨htwo, -, -, hroom⟩ := search_hybrid_iff logIndex_built (show "log".length ≤ _ by decide) 2
  obtain ⟨-, hone, -, -⟩ := search_hybrid_iff logIndex_built (show "log".length ≤ _ by decide) 1
  constructor
  · have hpattern : (logIndex.patternMatches logPattern).length ≤ 2 * 2 := by
      have hle : (logIndex.patternMatches logPattern).length ≤ _ := List.length_filterMap_le _ _
      rw [List.length_zipIdx] at hle
      exact Nat.le_trans hle (by decide)
    have hwords : (Bm25.default.answers logIndex.corpus (Text.tokenize "log")).length ≤ 2 * 2 := by
      decide +kernel
    rw [htwo, hroom hwords hpattern]
    rfl
  · intro hsame
    obtain ⟨words, hwords, hkey, hkeyCut⟩ := logIndex_wordScore?_last
    exact logIndex_cut_ne hwords hkey hkeyCut (hone.mp hsame _ (logIndex_best hwords hkey)) rfl

/-- Hybrid searches do not always rank by complete sums. -/
theorem search_hybrid_differs :
    ¬ ∀ (index : CatalogIndex) (query : String) (limit : Nat), Built index →
      query.length ≤ Pattern.maxLength →
      index.search query .hybrid limit = .ok (index.hits
        (Scored.best limit (index.fusedMatches query (Pattern.Expr.compile query)))) := by
  intro hall
  obtain ⟨words, hwords, hkey, hkeyCut⟩ := logIndex_wordScore?_last
  have hsame := hall logIndex "log" 1 logIndex_built (by decide)
  rw [search_hybrid_eq logIndex_built (by decide), Except.ok.injEq] at hsame
  have hhit : ⟨"log", words + patternWeight * IndexEntry.nameScore⟩ ∈ logIndex.hits
      (Scored.best 1 (logIndex.fusedMatches "log" logPattern)) :=
    List.mem_filterMap.mpr ⟨_, logIndex_best hwords hkey, rfl⟩
  have hcut : ⟨"log", words + patternWeight * IndexEntry.nameScore⟩ ∈ logIndex.hits
      (Scored.best 1 (logIndex.cutMatches "log" logPattern 2)) := hsame ▸ hhit
  obtain ⟨s, hs, hentry⟩ := List.mem_filterMap.mp hcut
  obtain ⟨entry, -, hmade⟩ := Option.map_eq_some_iff.mp hentry
  exact logIndex_cut_ne hwords hkey hkeyCut (Scored.mem_of_mem_best hs)
    (congrArg Hit.score hmade)

end ToolDiscovery.CatalogIndex
