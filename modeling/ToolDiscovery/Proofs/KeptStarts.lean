import Mathlib.Data.List.Infix
import ToolDiscovery.Proofs.ResultLimits

/-!
# What is kept of a long result

Of a text that is too long, `Truncation.fitting` keeps the longest start that fits: the next
character does not fit any more, and every start that fits is a start of what is kept. So at most
three bytes are left unused. `truncate_outcome` says this of whole results.
-/

namespace ToolDiscovery

namespace Truncation

variable {text start : List Char} {bytes : Nat}

/-- What is kept is a start of the text. -/
theorem fitting_isPrefix (bytes : Nat) (text : List Char) : fitting bytes text <+: text := by
  induction text generalizing bytes with
  | nil => exact List.nil_prefix
  | cons c rest ih =>
      rw [fitting]
      split
      · exact List.cons_prefix_cons.mpr ⟨rfl, ih (bytes - c.utf8Size)⟩
      · exact List.nil_prefix

/-- Every start that fits is kept. -/
theorem prefix_fitting (hstart : start <+: text)
    (hfits : (String.ofList start).utf8ByteSize ≤ bytes) : start <+: fitting bytes text := by
  induction text generalizing start bytes with
  | nil => exact hstart
  | cons c rest ih =>
      cases start with
      | nil => exact List.nil_prefix
      | cons d start =>
          obtain ⟨rfl, hmore⟩ := List.cons_prefix_cons.mp hstart
          rw [utf8ByteSize_cons] at hfits
          have hfirst : d.utf8Size ≤ bytes := by omega
          rw [fitting, if_pos hfirst]
          exact List.cons_prefix_cons.mpr ⟨rfl, ih hmore (by omega)⟩

/-- Of a text that does not fit, the character behind what is kept does not fit any more. -/
theorem fitting_next (htext : bytes < (String.ofList text).utf8ByteSize) :
    ∃ next rest, text = fitting bytes text ++ next :: rest ∧
      bytes < (String.ofList (fitting bytes text)).utf8ByteSize + next.utf8Size := by
  obtain ⟨after, hafter⟩ := fitting_isPrefix bytes text
  cases after with
  | nil =>
      have hkept := utf8ByteSize_fitting bytes text
      rw [List.append_nil] at hafter
      rw [hafter] at hkept
      omega
  | cons next rest =>
      refine ⟨next, rest, hafter.symm, ?_⟩
      -- Otherwise the start that is longer by this character would fit, and so be kept.
      by_contra hfits
      have hlonger : fitting bytes text ++ [next] <+: text :=
        ⟨rest, by rw [List.append_assoc, List.singleton_append, hafter]⟩
      have hsize : (String.ofList (fitting bytes text ++ [next])).utf8ByteSize ≤ bytes := by
        rw [String.ofList_append, String.utf8ByteSize_append, utf8ByteSize_cons]
        simpa using Nat.le_of_not_lt hfits
      have hlength := (prefix_fitting hlonger hsize).length_le
      rw [List.length_append, List.length_singleton] at hlength
      omega

end Truncation

open Truncation in
/-- A text that takes at most the given number of bytes is left as it is. Of a longer one the
longest start that fits is kept: the next character would be too much, so that at most three bytes
are left unused, and every start that fits is a start of what is kept. Nothing follows it but a
notice, which tells the number of bytes of the whole text. -/
theorem truncate_outcome (text : String) (bytes : Nat) :
    (text.utf8ByteSize ≤ bytes → truncate text bytes = text) ∧
    (bytes < text.utf8ByteSize → ∃ (kept : String) (next : Char) (rest : List Char),
      truncate text bytes =
        kept ++ "...\n[truncated: " ++ toString text.utf8ByteSize ++ " bytes total]" ∧
      text.toList = kept.toList ++ next :: rest ∧
      kept.utf8ByteSize ≤ bytes ∧ bytes < kept.utf8ByteSize + next.utf8Size ∧
      bytes - kept.utf8ByteSize ≤ 3 ∧
      ∀ start : String, start.toList <+: text.toList → start.utf8ByteSize ≤ bytes →
        start.toList <+: kept.toList) := by
  refine ⟨truncate_of_le, fun hlong => ?_⟩
  have hchars : bytes < (String.ofList text.toList).utf8ByteSize := by
    rwa [String.ofList_toList]
  obtain ⟨next, rest, htext, hnext⟩ := fitting_next hchars
  have hsize := next.utf8Size_le_four
  refine ⟨.ofList (fitting bytes text.toList), next, rest, ?_, ?_,
    utf8ByteSize_fitting bytes text.toList, hnext, by omega, fun start hstart hfits => ?_⟩
  · rw [truncate, if_neg (Nat.not_le_of_lt hlong)]
    show _ ++ ("...\n[truncated: " ++ toString text.utf8ByteSize ++ " bytes total]") = _
    simp only [String.append_assoc]
  · rwa [String.toList_ofList]
  · rw [String.toList_ofList]
    exact prefix_fitting hstart (by rwa [String.ofList_toList])

/-- The limit falls into the third character, so it is cut before that one. One byte is left unused;
the last character would fit there, but it is not kept. -/
theorem truncate_outcome_inside :
    let text := "aé😀z"
    4 < text.utf8ByteSize ∧ truncate text 4 = "aé...\n[truncated: 8 bytes total]" ∧
      ∃ (kept : String) (next : Char) (rest : List Char),
        text.toList = kept.toList ++ next :: rest ∧ kept.utf8ByteSize ≤ 4 ∧
          4 < kept.utf8ByteSize + next.utf8Size := by
  intro text
  have hlong : 4 < text.utf8ByteSize := by decide +kernel
  obtain ⟨kept, next, rest, -, htext, hkept, hnext, -⟩ := (truncate_outcome text 4).2 hlong
  exact ⟨hlong, by decide +kernel, kept, next, rest, htext, hkept, hnext⟩

end ToolDiscovery
