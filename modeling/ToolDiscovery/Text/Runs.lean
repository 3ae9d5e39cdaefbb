/-!
# Maximal runs

`runs p text` lists the maximal stretches of `text` whose characters all satisfy `p`, in order. What
stands between them is dropped. A character that fails `p` ends a run, so that the runs on its two
sides do not depend on each other (`runs_append_cons`).
-/

namespace ToolDiscovery.Text

/-- Puts a run in front of the later ones, unless it is empty. -/
def pushRun {α : Type} (run : List α) (later : List (List α)) : List (List α) :=
  if run.isEmpty then later else run :: later

/-- The run with which a text starts, which may be empty, and the runs after it. -/
def splitRuns {α : Type} (p : α → Bool) (text : List α) : List α × List (List α) :=
  text.foldr
    (fun c split => if p c then (c :: split.1, split.2) else ([], pushRun split.1 split.2))
    ([], [])

/-- The maximal runs of characters that satisfy `p`. -/
def runs {α : Type} (p : α → Bool) (text : List α) : List (List α) :=
  let split := splitRuns p text
  pushRun split.1 split.2

variable {α : Type} {p : α → Bool}

@[simp] theorem splitRuns_nil : splitRuns p [] = ([], []) := rfl

theorem splitRuns_cons_of_pos {c : α} {text : List α} (h : p c) :
    splitRuns p (c :: text) = (c :: (splitRuns p text).1, (splitRuns p text).2) := by
  simp [splitRuns, h]

theorem splitRuns_cons_of_neg {c : α} {text : List α} (h : p c = false) :
    splitRuns p (c :: text) = ([], runs p text) := by
  simp [splitRuns, runs, h]

/-- A character that fails `p` separates the runs before it from those after it. -/
theorem runs_append_cons {c : α} {front back : List α} (h : p c = false) :
    runs p (front ++ c :: back) = runs p front ++ runs p back := by
  suffices hsplit : splitRuns p (front ++ c :: back) =
      ((splitRuns p front).1, (splitRuns p front).2 ++ runs p back) by
    simp only [runs, hsplit, pushRun]
    split <;> simp_all
  induction front with
  | nil => simp [splitRuns_cons_of_neg h]
  | cons d front ih =>
    cases hd : p d with
    | true => simp [splitRuns_cons_of_pos hd, ih]
    | false =>
      simp only [List.cons_append, splitRuns_cons_of_neg hd, Prod.mk.injEq, true_and]
      simp only [runs, ih, pushRun]
      split <;> simp_all

end ToolDiscovery.Text
