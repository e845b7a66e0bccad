import Mathlib.Data.List.TakeWhile

/-!
# Spans of text

The longest span of characters of a class at the start of a text ends where the first other
character stands.
-/

namespace CriticalCss.Text

variable {isPart : Char → Bool} {part rest : List Char}

/-- A span is taken up to where it stops. -/
theorem takeWhile_of_stops (parts : ∀ char ∈ part, isPart char = true)
    (stops : ∀ char ∈ rest.head?, isPart char = false) :
    (part ++ rest).takeWhile isPart = part := by
  have nothing : rest.takeWhile isPart = [] := by
    cases rest with
    | nil => rfl
    | cons char others => simp [stops char rfl]
  rw [List.takeWhile_append_of_pos parts, nothing, List.append_nil]

/-- Every text begins with a span, perhaps an empty one, up to where it stops. -/
theorem exists_span (isPart : Char → Bool) (text : List Char) :
    ∃ part rest, text = part ++ rest ∧ (∀ char ∈ part, isPart char = true) ∧
      (∀ char ∈ rest.head?, isPart char = false) ∧ text.takeWhile isPart = part := by
  refine ⟨text.takeWhile isPart, text.dropWhile isPart,
    List.takeWhile_append_dropWhile.symm, List.all_eq_true.mp List.all_takeWhile, ?_, rfl⟩
  intro char first
  have stopped := List.head?_dropWhile_not isPart text
  rwa [Option.mem_def.mp first] at stopped

/-- A character that belongs to no span ends every one. -/
theorem takeWhile_append_gap {gap : Char} (ends : isPart gap = false) (left right : List Char) :
    (left ++ gap :: right).takeWhile isPart = left.takeWhile isPart := by
  obtain ⟨part, rest, rfl, parts, stops, taken⟩ := exists_span isPart left
  rw [taken, List.append_assoc]
  apply takeWhile_of_stops parts
  cases rest with
  | nil => simpa using ends
  | cons char others => simpa using stops

end CriticalCss.Text
