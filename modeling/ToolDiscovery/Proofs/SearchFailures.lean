import ToolDiscovery.Proofs.IndexBatches
import ToolDiscovery.Proofs.MatcherSpace
import ToolDiscovery.Proofs.Searching

/-!
# When a search fails

A pattern that is not too long can always be built, if not as it stands, then with its characters
escaped (`Pattern.build?_escaped`). So a search fails in one case only, that of a pattern that is
too long: `CatalogIndex.search_eq_error_iff`. A pattern that cannot be built as it stands occurs
where its own text stands, in upper or lower case. `Policy.search_failures` says both of a search
as it is requested.
-/

namespace ToolDiscovery

namespace Pattern

/-! ## Building patterns -/

/-- Why a pattern cannot be built. -/
inductive PatternFault where
  /-- The pattern is longer than is accepted. -/
  | tooLong (length : Nat) (most : Nat)
  /-- Neither the pattern nor its escaped text is an expression for which there is a matcher. -/
  | unusable

/-- The expression of a pattern or, if there is none, that of its escaped text. -/
def buildPattern (pattern : String) : Except PatternFault Expr :=
  if maxLength < pattern.length then .error (.tooLong pattern.length maxLength)
  else
    match Expr.build? pattern with
    | some e => .ok e
    | none =>
      match Expr.build? (.ofList (escaped pattern.toList)) with
      | some e => .ok e
      | none => .error .unusable

variable {pattern : String} {text : List Char}

/-- What is searched for is what can be built and, if nothing can, the pattern's own text. -/
theorem Expr.compile_eq : Expr.compile pattern =
    (Expr.build? pattern).getD (.literal pattern.toList) := by
  unfold Expr.compile Expr.build?
  cases hparsed : Expr.parse? pattern with
  | none => rfl
  | some e =>
      by_cases hfits : e.layout.fits
      · simp only [hfits, if_true, Option.filter_some, Option.getD_some]
      · simp only [hfits, Bool.false_eq_true, if_false, Option.filter_some, Option.getD_none]

/-- An escaped text can be built, unless it is too long. -/
theorem build?_escaped (h : text.length ≤ maxLength) :
    Expr.build? (.ofList (escaped text)) = some (spelled text) := by
  rw [Expr.build?, Parse.parse?_escaped, Option.filter_some, if_pos (fits_spelled h)]

/-- The expressions that are built and searched for occur in the same texts. -/
theorem buildPattern_of_le (h : pattern.length ≤ maxLength) :
    ∃ e, buildPattern pattern = .ok e ∧
      ∀ text, e.occursIn text = (Expr.compile pattern).occursIn text := by
  rw [buildPattern, if_neg (Nat.not_lt.mpr h), Expr.compile_eq]
  cases hbuild : Expr.build? pattern with
  | some e => exact ⟨e, rfl, fun text => rfl⟩
  | none =>
      rw [build?_escaped (String.length_toList ▸ h)]
      exact ⟨_, rfl, occursIn_spelled pattern.toList⟩

/-- A pattern is unusable only if it is too long. -/
theorem buildPattern_eq_error_iff {fault : PatternFault} :
    buildPattern pattern = .error fault ↔
      maxLength < pattern.length ∧ fault = .tooLong pattern.length maxLength := by
  by_cases hlong : maxLength < pattern.length
  · rw [buildPattern, if_pos hlong, Except.error.injEq]
    exact ⟨fun h => ⟨hlong, h.symm⟩, fun h => h.2.symm⟩
  · obtain ⟨e, hbuilt, -⟩ := buildPattern_of_le (Nat.not_lt.mp hlong)
    rw [hbuilt]
    exact ⟨nofun, fun h => absurd h.1 hlong⟩

end Pattern

/-! ## Failures -/

theorem map_eq_error_iff {ε α β : Type} {f : α → β} {result : Except ε α} {e : ε} :
    result.map f = .error e ↔ result = .error e := by
  cases result with
  | error found => rw [Except.map, Except.error.injEq, Except.error.injEq]
  | ok value => exact ⟨nofun, nofun⟩

namespace CatalogIndex

variable {index : CatalogIndex} {query : String} {mode : SearchMode} {limit : Nat}
  {error : DiscoveryError}

theorem compilePattern_eq_error_iff :
    compilePattern query = .error error ↔
      Pattern.maxLength < query.length ∧
        error = .patternTooLong query.length Pattern.maxLength := by
  unfold compilePattern
  by_cases hlong : Pattern.maxLength < query.length
  · rw [if_pos hlong, Except.error.injEq]
    exact ⟨fun h => ⟨hlong, h.symm⟩, fun h => h.2.symm⟩
  · rw [if_neg hlong]
    exact ⟨nofun, fun h => absurd h.1 hlong⟩

/-- What is done with a pattern adds no failure to those of compiling it. -/
theorem search_eq_error_iff :
    index.search query mode limit = .error error ↔
      (mode = .regex ∨ mode = .hybrid) ∧ Pattern.maxLength < query.length ∧
        error = .patternTooLong query.length Pattern.maxLength := by
  rw [search_eq_ranking, map_eq_error_iff, ← compilePattern_eq_error_iff]
  cases mode with
  | bm25 => exact ⟨nofun, fun h => nomatch h.1⟩
  | regex => exact map_eq_error_iff.trans (iff_and_self.mpr fun _ => .inl rfl)
  | hybrid => exact map_eq_error_iff.trans (iff_and_self.mpr fun _ => .inr rfl)

end CatalogIndex

namespace Policy

variable {policy : Policy} {request : SearchRequest} {session : Session} {error : DiscoveryError}
  {indexed : IndexedCatalog}

theorem hitsOf_eq_error_iff (hindexed : policy.indexed? = some indexed) :
    policy.hitsOf request = .error error ↔
      ¬ Text.isBlankText request.query ∧
        (policy.modeOf request = .regex ∨ policy.modeOf request = .hybrid) ∧
        Pattern.maxLength < request.query.length ∧
        error = .patternTooLong request.query.length Pattern.maxLength := by
  rw [hitsOf, hindexed]
  by_cases hblank : Text.isBlankText request.query
  · rw [if_pos hblank]
    constructor
    · intro hsearch
      cases hsearch
    · intro h
      exact absurd hblank h.1
  · rw [if_neg hblank]
    exact CatalogIndex.search_eq_error_iff.trans (iff_and_self.mpr fun _ => hblank)

/-- A search fails only for a pattern that is too long, and never for one that is malformed. A
pattern of which nothing can be built is searched for as the text that it is. -/
theorem search_failures (hindexed : policy.indexed? = some indexed) (request : SearchRequest) :
    (∀ session error, policy.search request session = .error error ↔
      ¬ Text.isBlankText request.query ∧
        (policy.modeOf request = .regex ∨ policy.modeOf request = .hybrid) ∧
        200 < request.query.length ∧ error = .patternTooLong request.query.length 200) ∧
    (∀ fault, Pattern.buildPattern request.query = .error fault ↔
      200 < request.query.length ∧ fault = .tooLong request.query.length 200) ∧
    (request.query.length ≤ 200 →
      ∃ built compiled, Pattern.buildPattern request.query = .ok built ∧
        CatalogIndex.compilePattern request.query = .ok compiled ∧
        (∀ text, built.occursIn text = compiled.occursIn text) ∧
        (Pattern.Expr.build? request.query = none → ∀ text, compiled.occursIn text ↔
          ∃ before middle after, text = before ++ middle ++ after ∧
            middle.map Text.foldChar = request.query.toList.map Text.foldChar)) := by
  refine ⟨fun session error => ?_, fun fault => Pattern.buildPattern_eq_error_iff, fun hle => ?_⟩
  · rw [search_eq, map_eq_error_iff]
    exact hitsOf_eq_error_iff hindexed
  · obtain ⟨built, hbuilt, hsame⟩ := Pattern.buildPattern_of_le hle
    refine ⟨built, _, hbuilt, CatalogIndex.compilePattern_of_le hle, hsame, fun hnone text => ?_⟩
    rw [Pattern.Expr.compile_eq, hnone, Option.getD_none]
    exact Pattern.literal_occursIn

/-- An open bracket makes no pattern. With the space before it, it is searched for as it stands, in
upper or lower case. A pattern of 201 characters is too long. -/
theorem search_failures_openBracket :
    mailPolicy.indexed? = some mailCatalog ∧ Pattern.Expr.build? " (Send" = none ∧
      (∀ session error,
        mailPolicy.search { query := " (Send", mode? := some .regex } session ≠ .error error) ∧
      (∃ compiled, CatalogIndex.compilePattern " (Send" = .ok compiled ∧
        compiled.occursIn "my (sEND)".toList ∧ ¬ compiled.occursIn "my(send)".toList) ∧
      ∀ session, mailPolicy.search
        { query := .ofList (List.replicate 201 'x'), mode? := some .hybrid } session =
          .error (.patternTooLong 201 200) := by
  have hindexed : mailPolicy.indexed? = some mailCatalog := rfl
  have hshort : ¬ 200 < " (Send".length := by decide
  have hparsed : (Pattern.Expr.parse? " (Send").isNone := by decide +kernel
  have hbuild : Pattern.Expr.build? " (Send" = none := by
    rw [Pattern.Expr.build?, Option.isNone_iff_eq_none.mp hparsed]
    rfl
  obtain ⟨hfails, -, hfound⟩ :=
    search_failures hindexed { query := " (Send", mode? := some .regex }
  obtain ⟨built, compiled, -, hcompiled, -, hoccurs⟩ := hfound (Nat.not_lt.mp hshort)
  refine ⟨hindexed, hbuild, ?_, ⟨compiled, hcompiled, ?_, ?_⟩, ?_⟩
  · intro session error herror
    exact hshort ((hfails session error).mp herror).2.2.1
  · exact (hoccurs hbuild _).mpr
      ⟨['m', 'y'], [' ', '(', 's', 'E', 'N', 'D'], [')'], by decide, by decide +kernel⟩
  · -- The text would have a space in it.
    intro hfound
    obtain ⟨before, middle, after, htext, hsame⟩ := (hoccurs hbuild _).mp hfound
    have hspace : ' ' ∈ middle.map Text.foldChar := by
      rw [hsame]
      decide +kernel
    have hnone : ' ' ∉ "my(send)".toList.map Text.foldChar := by decide +kernel
    refine hnone ?_
    rw [htext, List.map_append, List.map_append]
    exact List.mem_append_left _ (List.mem_append_right _ hspace)
  · intro session
    have hlength : (String.ofList (List.replicate 201 'x')).length = 201 := by
      rw [String.length_ofList, List.length_replicate]
    refine ((search_failures hindexed _).1 session _).mpr ⟨?_, .inr rfl, ?_, ?_⟩
    · decide +kernel
    · show 200 < (String.ofList (List.replicate 201 'x')).length
      rw [hlength]
      decide
    · show _ = DiscoveryError.patternTooLong (String.ofList (List.replicate 201 'x')).length 200
      rw [hlength]

end Policy

end ToolDiscovery
