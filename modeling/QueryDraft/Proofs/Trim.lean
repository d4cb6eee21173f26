import Mathlib.Data.List.DropRight
import QueryDraft.Text.Blank

/-!
# Trimmed texts

Trimming a second time changes nothing (`trim_trim`), so whatever passes `nonBlank?` is a text that
is not empty and is its own trimmed form (`IsTrimmed`), and such a text passes as it is.
-/

namespace QueryDraft.Text

/-- A text that is not empty and has no white space at either end. -/
def IsTrimmed (s : String) : Prop := s ≠ "" ∧ trim s = s

theorem trimChars_eq_rdropWhile (cs : List Char) :
    trimChars cs = (cs.dropWhile isBlank).rdropWhile isBlank := rfl

/-- What is left after both ends were taken off does not start with white space. -/
theorem dropWhile_trimChars (cs : List Char) : (trimChars cs).dropWhile isBlank = trimChars cs := by
  rw [List.dropWhile_eq_self_iff]
  intro hl
  obtain ⟨rest, hrest⟩ := List.rdropWhile_prefix isBlank (cs.dropWhile isBlank)
  rw [← trimChars_eq_rdropWhile] at hrest
  have hhead : (cs.dropWhile isBlank).dropWhile isBlank = cs.dropWhile isBlank :=
    List.dropWhile_idempotent isBlank _
  rw [← hrest, List.dropWhile_eq_self_iff] at hhead
  have := hhead (by simp; omega)
  simpa [List.getElem_append_left hl] using this

theorem trimChars_trimChars (cs : List Char) : trimChars (trimChars cs) = trimChars cs := by
  rw [trimChars_eq_rdropWhile (trimChars cs), dropWhile_trimChars, trimChars_eq_rdropWhile,
    List.rdropWhile_idempotent]

theorem trimChars_padded {before body after : List Char} (hbefore : ∀ c ∈ before, isBlank c)
    (hafter : ∀ c ∈ after, isBlank c) (hne : body ≠ []) (hbody : ∀ c ∈ body, ¬ isBlank c) :
    trimChars (before ++ body ++ after) = body := by
  have hleft : (body ++ after).dropWhile isBlank = body ++ after := by
    cases body with
    | nil => exact absurd rfl hne
    | cons c body => simpa using hbody c List.mem_cons_self
  have hright : body.rdropWhile isBlank = body :=
    List.rdropWhile_eq_self_iff.2 fun h => hbody _ (List.getLast_mem h)
  rw [trimChars_eq_rdropWhile, List.append_assoc, List.dropWhile_append_of_pos hbefore, hleft,
    List.rdropWhile, List.reverse_append, List.dropWhile_append_of_pos (by simpa using hafter)]
  exact hright

theorem trim_trim (s : String) : trim (trim s) = trim s := by
  simp [trim, trimChars_trimChars]

theorem nonBlank?_eq_some {s t : String} : nonBlank? s = some t ↔ trim s = t ∧ t ≠ "" := by
  unfold nonBlank?
  split_ifs with h
  · simp only [false_iff, not_and, not_not]
    rintro rfl
    exact h
  · simp only [Option.some.injEq]
    exact ⟨fun ht => ⟨ht, ht ▸ h⟩, And.left⟩

theorem isTrimmed_of_nonBlank? {s t : String} (h : nonBlank? s = some t) : IsTrimmed t := by
  obtain ⟨rfl, ht⟩ := nonBlank?_eq_some.1 h
  exact ⟨ht, trim_trim s⟩

theorem IsTrimmed.nonBlank? {s : String} (h : IsTrimmed s) : nonBlank? s = some s :=
  nonBlank?_eq_some.2 ⟨h.2, h.1⟩

end QueryDraft.Text
