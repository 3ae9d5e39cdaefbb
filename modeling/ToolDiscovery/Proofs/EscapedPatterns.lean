import ToolDiscovery.Proofs.LiteralMatching

/-!
# Escaped texts as patterns

With a backslash before each character that has a meaning of its own in patterns, a text is read as
its characters one after the other (`Pattern.Parse.parse?_escaped`): no such pattern is malformed.
What is read occurs in the same texts as the expression for the text itself
(`Pattern.occursIn_spelled`).
-/

namespace ToolDiscovery.Pattern

/-- The written form of a text itself: each character that has a meaning of its own in patterns
stands behind a backslash. -/
def escaped (text : List Char) : List Char :=
  text.flatMap fun c => if Parse.operators.contains c then ['\\', c] else [c]

/-- The expression of a pattern, if it is one and a matcher for it does not take too much space. -/
def Expr.build? (text : String) : Option Expr := (Expr.parse? text).filter (·.layout.fits)

/-- What is read for a text itself: its characters one after the other. -/
def spelled (text : List Char) : Expr :=
  text.foldl (fun done c => Parse.push done (some (eitherCase c))) .empty

namespace Parse

variable {names : List (List Char)} {letters : List Nat} {bell : Bool} {c : Char}
  {more : List Char} {fuel : Nat} {done : Expr} {last? : Option Expr}

/-! ## Steps of the reader -/

section Steps

variable {α β : Type} (state : ParseState)

theorem run_pure (a : α) : (pure a : Parse α) state = .ok (a, state) := rfl

theorem run_bind (part : Parse α) (next : α → Parse β) :
    (part >>= next) state = (part state).bind fun found => next found.1 found.2 := rfl

theorem run_flags : flags state = .ok (state.flags, state) := rfl

theorem run_peek? : peek? state = .ok (state.rest.head?, state) := rfl

end Steps

/-! ## Characters one after the other -/

theorem primitive_operator (hc : c ∈ operators) :
    primitive ⟨'\\' :: c :: more, {}, names, letters, bell⟩ =
      .ok (eitherCase c, ⟨more, {}, names, letters, bell⟩) := by
  have hoperators : operators = ['\\', '.', '+', '*', '?', '(', ')', '|', '[', ']', '\x7b', '\x7d',
    '^', '$', '#', '&', '-', '~'] := by decide
  rw [hoperators] at hc
  simp only [List.mem_cons, List.not_mem_nil, or_false] at hc
  rcases hc with rfl | rfl | rfl | rfl | rfl | rfl | rfl | rfl | rfl | rfl | rfl | rfl | rfl | rfl |
    rfl | rfl | rfl | rfl <;> rfl

theorem primitive_plain (hc : c ∉ operators) :
    primitive ⟨c :: more, {}, names, letters, bell⟩ =
      .ok (eitherCase c, ⟨more, {}, names, letters, bell⟩) := by
  have hslash : c ≠ '\\' := fun h => hc (h ▸ by decide)
  have hdot : c ≠ '.' := fun h => hc (h ▸ by decide)
  have hstart : c ≠ '^' := fun h => hc (h ▸ by decide)
  have hend : c ≠ '$' := fun h => hc (h ▸ by decide)
  unfold primitive
  simp only [run_bind, run_pure, run_flags, peek, run_peek?, Except.bind, List.head?_cons]
  rfl

/-- One more character is read like any other if it opens nothing, ends nothing and repeats
nothing. -/
theorem parts_succ {state next : ParseState} {found : Expr} (hspaced : state.flags.spaced = false)
    (hrest : state.rest = c :: more) (hc : c ∉ [')', '|', '(', '[', '?', '*', '+', '\x7b'])
    (hfound : primitive state = .ok (found, next)) :
    parts (fuel + 1) done last? state = parts fuel (push done last?) (some found) next := by
  simp only [List.mem_cons, List.not_mem_nil, or_false, not_or] at hc
  obtain ⟨hclose, hbar, hround, hbracket, hquestion, hstar, hplus, hbrace⟩ := hc
  rw [parts]
  simp only [skipSpace, run_bind, run_pure, run_flags, run_peek?, Except.bind, hrest, hspaced,
    List.head?_cons, hclose, hbar, hround, hbracket, hquestion, hstar, hplus, hbrace, or_self,
    if_false, Bool.false_eq_true, hfound]

theorem parts_escaped (text : List Char) (hfuel : text.length < fuel) :
    parts fuel done last? ⟨escaped text, {}, names, letters, bell⟩ =
      .ok (text.foldl (fun done c => push done (some (eitherCase c))) (push done last?),
        ⟨[], {}, names, letters, bell⟩) := by
  induction text generalizing fuel done last? with
  | nil =>
      cases fuel with
      | zero => cases hfuel
      | succ fuel => rfl
  | cons c rest ih =>
      cases fuel with
      | zero => cases hfuel
      | succ fuel =>
          have hless : rest.length < fuel := Nat.lt_of_succ_lt_succ hfuel
          by_cases hc : c ∈ operators
          · have hescaped : escaped (c :: rest) = '\\' :: c :: escaped rest := by
              simp [escaped, hc]
            rw [hescaped, parts_succ rfl rfl (by decide) (primitive_operator hc)]
            exact ih hless
          · have hescaped : escaped (c :: rest) = c :: escaped rest := by simp [escaped, hc]
            have hspecial : [')', '|', '(', '[', '?', '*', '+', '\x7b'] ⊆ operators := by decide
            rw [hescaped, parts_succ rfl rfl (fun h => hc (hspecial h)) (primitive_plain hc)]
            exact ih hless

theorem length_le_escaped (text : List Char) : text.length ≤ (escaped text).length := by
  induction text with
  | nil => exact Nat.le_refl 0
  | cons c rest ih =>
      rw [escaped, List.flatMap_cons, List.length_append, List.length_cons]
      have hone : 1 ≤ (if operators.contains c then ['\\', c] else [c]).length := by
        split <;> simp
      have hrest : rest.length ≤ (rest.flatMap _).length := ih
      omega

/-- What is read for an escaped text are its characters one after the other. -/
theorem parse?_escaped (text : List Char) :
    Expr.parse? (.ofList (escaped text)) = some (spelled text) := by
  have hlength : text.length < 4 * (escaped text).length + 7 := by
    have := length_le_escaped text
    omega
  have halternatives : alternatives (4 * (escaped text).length + 8)
      ⟨escaped text, {}, [], [], false⟩ = .ok (spelled text, ⟨[], {}, [], [], false⟩) := by
    rw [alternatives]
    simp only [bind, StateT.bind, parts_escaped text hlength, Except.bind]
    rfl
  unfold Expr.parse? Expr.parseWith
  rw [String.toList_ofList]
  simp only [halternatives, bind, Except.bind]
  rfl

end Parse

theorem push_cases (done last : Expr) : done = .empty ∧ Parse.push done (some last) = last ∨
    Parse.push done (some last) = .sequence done last := by
  cases done with
  | empty => exact .inl ⟨rfl, rfl⟩
  | chars | look | around | group | sequence | either | repeated => exact .inr rfl

theorem advance_push (text : List Char) (done last : Expr) (positions : Nat) :
    (Parse.push done (some last)).advance text positions =
      last.advance text (done.advance text positions) := by
  rcases push_cases done last with ⟨rfl, hpush⟩ | hpush
  · rw [hpush]
    rfl
  · rw [hpush]
    rfl

/-- The characters of a text one after the other match like the text itself. -/
theorem occursIn_spelled (query text : List Char) :
    (spelled query).occursIn text = (Expr.literal query).occursIn text := by
  have hadvance (query : List Char) (done : Expr) (positions : Nat) :
      (query.foldl (fun done c => Parse.push done (some (eitherCase c))) done).advance text
        positions = advanceAll text query (done.advance text positions) := by
    induction query generalizing done with
    | nil => rfl
    | cons c rest ih =>
        rw [List.foldl_cons, ih, advance_push]
        rfl
  rw [Expr.occursIn, Expr.occursIn, advance_literal, spelled, hadvance]
  rfl

end ToolDiscovery.Pattern
