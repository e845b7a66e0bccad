import CriticalCss.Selector
import Mathlib.Data.List.Infix

/-!
# Deleting what is found

Deletion goes through a text from left to right and drops every find as a whole.  So a text is
either empty, or begins with a character that stays, or begins with a find that goes; and what
is left is the text without some of its factors, each of them a find.
-/

namespace CriticalCss.Selector

variable {matchLength : List Char → Nat}

/-! ## Deletion step by step -/

/-- Characters that still belong to a find are passed over. -/
theorem deleteFrom_eq (pending : Nat) (text : List Char) :
    deleteFrom matchLength pending text = delete matchLength (text.drop pending) := by
  induction text generalizing pending with
  | nil => cases pending <;> rfl
  | cons char rest ih =>
      cases pending with
      | zero => rfl
      | succ pending => exact ih pending

@[simp] theorem delete_nil : delete matchLength [] = [] := rfl

/-- A character at which nothing is found stays. -/
theorem delete_cons_of_zero {char : Char} {rest : List Char}
    (nothing : matchLength (char :: rest) = 0) :
    delete matchLength (char :: rest) = char :: delete matchLength rest := by
  simp only [delete, deleteFrom, nothing]

/-- A find goes as a whole. -/
theorem delete_append {found rest : List Char} (nonempty : found ≠ [])
    (isFound : matchLength (found ++ rest) = found.length) :
    delete matchLength (found ++ rest) = delete matchLength rest := by
  cases found with
  | nil => exact absurd rfl nonempty
  | cons first others =>
      rw [List.cons_append, List.length_cons] at isFound
      simp only [List.cons_append, delete, deleteFrom, isFound]
      rw [deleteFrom_eq, List.drop_left]
      rfl

/-- A text stays up to a place if nothing is found before it. -/
theorem delete_append_of_zero {front rest : List Char}
    (nothing : ∀ suffix, suffix ≠ [] → suffix <:+ front → matchLength (suffix ++ rest) = 0) :
    delete matchLength (front ++ rest) = front ++ delete matchLength rest := by
  induction front with
  | nil => rfl
  | cons char others ih =>
      have nothingHere : matchLength (char :: (others ++ rest)) = 0 :=
        nothing (char :: others) (by simp) List.suffix_rfl
      rw [List.cons_append, delete_cons_of_zero nothingHere, List.cons_append, ih]
      intro suffix nonempty isSuffix
      exact nothing suffix nonempty (isSuffix.trans (List.suffix_cons char others))

/-- At the start of any text nothing is found, or a factor of a kind is, as long as is said. -/
def Finds (matchLength : List Char → Nat) (isFactor : List Char → Prop) : Prop :=
  ∀ text, matchLength text = 0 ∨ ∃ found rest, text = found ++ rest ∧ found ≠ [] ∧
    isFactor found ∧ matchLength text = found.length

/-- Induction on a text along with what is left of it. -/
theorem delete_induction {isFactor : List Char → Prop} {motive : List Char → List Char → Prop}
    (finds : Finds matchLength isFactor)
    (nil : motive [] [])
    (keep : ∀ char rest, matchLength (char :: rest) = 0 → motive rest (delete matchLength rest) →
      motive (char :: rest) (char :: delete matchLength rest))
    (drop : ∀ found rest, found ≠ [] → isFactor found →
      matchLength (found ++ rest) = found.length →
      motive rest (delete matchLength rest) → motive (found ++ rest) (delete matchLength rest))
    (text : List Char) : motive text (delete matchLength text) := by
  cases text with
  | nil => exact nil
  | cons char rest =>
      rcases finds (char :: rest) with nothing | ⟨found, behind, split, nonempty, factor, length⟩
      · rw [delete_cons_of_zero nothing]
        exact keep char rest nothing (delete_induction finds nil keep drop rest)
      · have shorter : behind.length < (char :: rest).length := by
          have positive := List.length_pos_iff.mpr nonempty
          rw [split, List.length_append]
          omega
        rw [split] at length ⊢
        rw [delete_append nonempty length]
        exact drop found behind nonempty factor length (delete_induction finds nil keep drop behind)
termination_by text.length
decreasing_by
  · exact Nat.lt_succ_self rest.length
  · exact shorter

/-! ## Texts without some of their factors -/

/-- A text with what is left of it when some factors of a kind are deleted. -/
inductive Deletes (isFactor : List Char → Prop) : List Char → List Char → Prop where
  | nil : Deletes isFactor [] []
  | keep (char : Char) {text left : List Char} : Deletes isFactor text left →
      Deletes isFactor (char :: text) (char :: left)
  | drop {found text left : List Char} : isFactor found → Deletes isFactor text left →
      Deletes isFactor (found ++ text) left

theorem Deletes.sublist {isFactor : List Char → Prop} {text left : List Char}
    (deletes : Deletes isFactor text left) : left.Sublist text := by
  induction deletes with
  | nil => exact .slnil
  | keep char _ ih => exact ih.cons_cons char
  | drop _ _ ih => exact List.sublist_append_of_sublist_right ih

/-- What deletion leaves is the text without some factors that have been found. -/
theorem Finds.deletes {isFactor : List Char → Prop} (finds : Finds matchLength isFactor)
    (text : List Char) : Deletes isFactor text (delete matchLength text) := by
  induction text using delete_induction finds with
  | nil => exact .nil
  | keep char rest _ ih => exact .keep char ih
  | drop found rest _ factor _ ih => exact .drop factor ih

end CriticalCss.Selector
