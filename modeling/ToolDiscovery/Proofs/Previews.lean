import ToolDiscovery.Proofs.Tokens
import ToolDiscovery.Text.Preview

/-!
# What a preview can hold

Collapsing leaves no blank character but the spaces between words, and cutting a text and putting
an ellipsis behind it adds none. So a preview stands in one line, and it is not longer than it may
be: `Text.length_preview_le` and `Text.eq_space_of_mem_preview`.
-/

namespace ToolDiscovery.Text

variable {text : List Char} {c : Char} {most : Nat}

/-- Each character of joined parts is the separator or stands in a part. -/
theorem mem_intercalate {separator : Char} {parts : List (List Char)}
    (hc : c ∈ List.intercalate [separator] parts) : c = separator ∨ ∃ part ∈ parts, c ∈ part := by
  induction parts with
  | nil => exact absurd hc List.not_mem_nil
  | cons first rest ih =>
      cases rest with
      | nil =>
          rw [List.intercalate_singleton] at hc
          exact .inr ⟨first, List.mem_cons_self, hc⟩
      | cons second others =>
          rw [List.intercalate_cons_cons, List.append_assoc, List.mem_append, List.mem_append,
            List.mem_singleton] at hc
          rcases hc with hc | hc | hc
          · exact .inr ⟨first, List.mem_cons_self, hc⟩
          · exact .inl hc
          · rcases ih hc with hseparator | ⟨part, hpart, hmem⟩
            · exact .inl hseparator
            · exact .inr ⟨part, List.mem_cons_of_mem _ hpart, hmem⟩

/-- The only blank characters of a collapsed text are spaces. -/
theorem eq_space_of_mem_collapse (hc : c ∈ collapse text) (hblank : isBlank c) : c = ' ' := by
  rcases mem_intercalate hc with hspace | ⟨word, hword, hmem⟩
  · exact hspace
  · have hnot := ((of_mem_runs hword).2 c hmem).1
    rw [hblank] at hnot
    cases hnot

theorem length_previewChars_le (hmost : ellipsis.length ≤ most) (text : List Char) :
    (previewChars most text).length ≤ most := by
  unfold previewChars
  by_cases hfits : (collapse text).length ≤ most
  · simp only [if_pos hfits]
    exact hfits
  · simp only [if_neg hfits, List.length_append, List.length_take]
    omega

theorem eq_space_of_mem_previewChars (hc : c ∈ previewChars most text) (hblank : isBlank c) :
    c = ' ' := by
  unfold previewChars at hc
  by_cases hfits : (collapse text).length ≤ most
  · simp only [if_pos hfits] at hc
    exact eq_space_of_mem_collapse hc hblank
  · simp only [if_neg hfits, List.mem_append] at hc
    rcases hc with hc | hc
    · exact eq_space_of_mem_collapse (List.mem_of_mem_take hc) hblank
    · obtain rfl : c = '.' := by simpa [ellipsis] using hc
      exact absurd hblank (by decide)

/-- A preview has at most as many characters as it may have. -/
theorem length_preview_le (hmost : ellipsis.length ≤ most) (text : String) :
    (preview most text).length ≤ most := by
  rw [preview, String.length_ofList]
  exact length_previewChars_le hmost text.toList

/-- A preview stands in one line. -/
theorem eq_space_of_mem_preview {text : String} (hc : c ∈ (preview most text).toList)
    (hblank : isBlank c) : c = ' ' := by
  rw [preview, String.toList_ofList] at hc
  exact eq_space_of_mem_previewChars hc hblank

end ToolDiscovery.Text
