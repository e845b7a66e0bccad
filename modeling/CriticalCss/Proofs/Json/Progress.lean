import CriticalCss.Proofs.Json.Documents

/-!
# Reading goes forward

Whatever is read from a text leaves an end of the text.  Hence a number that is refused because it
has too many digits stands in the text, with all its digits in a row.
-/

namespace CriticalCss.Json

/-- A text has more digits in a row than are read as one whole number. -/
def HasLongRun (text : List Char) : Prop :=
  ∃ digits, digits <:+: text ∧ (∀ char ∈ digits, char.isDigit = true) ∧
    Integer.digitLimit < digits.length

/-- What a text is read as: something and an end of the text, or an error, which is not about the
digits of a number unless the text has too many of them in a row. -/
structure Advances {α : Type} (text : List Char) (outcome : Except Error (α × List Char)) :
    Prop where
  suffix : ∀ value rest, outcome = .ok (value, rest) → rest <:+ text
  longRun : ∀ error count, outcome = .error error → error.problem = .tooLong count →
    HasLongRun text

namespace Advances

variable {α β : Type} {text rest : List Char}

theorem ok (value : α) (suffix : rest <:+ text) : Advances text (.ok (value, rest)) := by
  constructor
  · rintro _ _ ⟨⟩
    exact suffix
  · rintro _ _ ⟨⟩

theorem error {error : Error} (other : ∀ count, error.problem ≠ .tooLong count) :
    Advances text (.error error : Except Error (α × List Char)) := by
  constructor
  · rintro _ _ ⟨⟩
  · rintro _ count ⟨⟩ tooLong
    exact absurd tooLong (other count)

theorem mono {outcome : Except Error (α × List Char)} (advances : Advances rest outcome)
    (suffix : rest <:+ text) : Advances text outcome := by
  constructor
  · intro value behind succeeds
    exact (advances.suffix value behind succeeds).trans suffix
  · intro error count fails tooLong
    obtain ⟨digits, inRest, isRun⟩ := advances.longRun error count fails tooLong
    exact ⟨digits, inRest.trans suffix.isInfix, isRun⟩

theorem bind {first : Except Error (α × List Char)}
    {next : α × List Char → Except Error (β × List Char)} (here : Advances text first)
    (onward : ∀ value rest, Advances rest (next (value, rest))) :
    Advances text (first >>= next) := by
  cases first with
  | error error =>
      constructor
      · rintro _ _ ⟨⟩
      · rintro _ count ⟨⟩ tooLong
        exact here.longRun error count rfl tooLong
  | ok found =>
      obtain ⟨value, rest⟩ := found
      exact (onward value rest).mono (here.suffix value rest rfl)

theorem behind {outcome : Except Error (α × List Char)} (advances : Advances rest outcome)
    (char : Char) : Advances (char :: rest) outcome :=
  advances.mono (List.suffix_cons _ _)

theorem behindSpace {outcome : Except Error (α × List Char)}
    (advances : Advances (skipSpace text) outcome) : Advances text outcome :=
  advances.mono (List.dropWhile_suffix _)

/-- A character may be put in front of what is read. -/
theorem cons {chars : Except Error (List Char × List Char)} (advances : Advances text chars)
    (char : Char) : Advances text (do
      let (chars, rest) ← chars
      return (char :: chars, rest)) :=
  advances.bind fun _ _ => .ok _ (List.suffix_refl _)

end Advances

/-! ## Texts -/

theorem lowUnit?_suffix {text rest : List Char} {unit : Option Nat}
    (read : lowUnit? text = some (unit, rest)) : rest <:+ text := by
  rw [lowUnit?.eq_def] at read
  split at read
  next first second third fourth next behind =>
    cases read
    exact ⟨['\\', 'u', first, second, third, fourth], rfl⟩
  next => cases read

theorem readUnit_suffix {text rest : List Char} {char : Char}
    (read : readUnit text = some (char, rest)) : rest <:+ text := by
  rw [readUnit.eq_def] at read
  split at read
  next first second third fourth next behind =>
    have skipped : next :: behind <:+ first :: second :: third :: fourth :: next :: behind :=
      ⟨[first, second, third, fourth], rfl⟩
    split at read
    next => cases read
    next high _ =>
    split at read
    next =>
      split at read
      next => cases read
      next low behind isLow =>
        split at read
        · obtain ⟨-, rfl⟩ := Prod.mk.inj (Option.some.inj read)
          exact (lowUnit?_suffix isLow).trans skipped
        · cases read
          exact skipped
      next =>
        cases read
        exact skipped
    next =>
      cases read
      exact skipped
  next => cases read

theorem readChars_advances (opening : List Char) (fuel : Nat) (text : List Char) :
    Advances text (readChars opening fuel text) := by
  induction fuel generalizing text with
  | zero => exact .error (by simp)
  | succ fuel ih =>
      cases text with
      | nil => exact .error (by simp)
      | cons char rest =>
          rw [readChars.eq_def]
          simp only
          split
          · exact .ok _ (List.suffix_cons _ _)
          split
          · split
            next => exact .error (by simp)
            next digits =>
              split
              next => exact .error (by simp)
              next found behind isUnit =>
                have skipped : behind <:+ char :: 'u' :: digits :=
                  (readUnit_suffix isUnit).trans ⟨[char, 'u'], rfl⟩
                exact ((ih behind).cons found).mono skipped
            next mark rest _ =>
              split
              next => exact .error (by simp)
              next => exact ((ih rest).cons _).mono ⟨[char, mark], rfl⟩
          split
          · exact .error (by simp)
          · exact ((ih rest).cons char).mono (List.suffix_cons _ _)

theorem readText_advances (text : List Char) : Advances text (readText text) :=
  (readChars_advances _ _ text).bind fun _ _ => .ok _ (List.suffix_refl _)

/-! ## Numbers -/

theorem digitSpan_suffix (text : List Char) : (digitSpan text).2 <:+ text :=
  List.dropWhile_suffix _

theorem wholePart_suffix {text whole rest : List Char}
    (found : wholePart text = some (whole, rest)) : text = whole ++ rest := by
  rw [wholePart.eq_def] at found
  split at found
  · cases found
    rfl
  · split at found
    · cases found
      exact (List.takeWhile_append_dropWhile).symm
    · cases found
  · cases found

theorem fractionPart_suffix (text : List Char) : (fractionPart text).2 <:+ text := by
  rw [fractionPart.eq_def]
  split
  next char rest =>
    split
    · exact (digitSpan_suffix _).trans (List.suffix_cons _ _)
    · exact List.suffix_refl _
  next => exact List.suffix_refl _

theorem splitSign_suffix (text : List Char) : (Integer.splitSign text).2 <:+ text := by
  rw [Integer.splitSign.eq_def]
  split
  · exact List.suffix_cons _ _
  · exact List.suffix_cons _ _
  · exact List.suffix_refl _

theorem powerPart_suffix (text : List Char) : (powerPart text).2 <:+ text := by
  cases text with
  | nil => exact List.suffix_refl _
  | cons mark text =>
      rw [powerPart.eq_def]
      simp only
      split
      · split
        next => exact List.suffix_refl _
        next digits rest _ isSpan =>
          have behind := digitSpan_suffix (Integer.splitSign text).2
          rw [isSpan] at behind
          exact (behind.trans (splitSign_suffix text)).trans (List.suffix_cons _ _)
      · exact List.suffix_refl _

/-- Behind a sign, a number is read or has too many digits. -/
theorem readMagnitude_goes {negative : Bool} {text rest : List Char}
    {found : Except Problem Number} (read : readMagnitude negative text = some (found, rest)) :
    rest <:+ text ∧ ∀ problem, found = .error problem → HasLongRun text := by
  rw [readMagnitude] at read
  split at read
  next => cases read
  next whole behind isWhole =>
  have wholeSplit := wholePart_suffix isWhole
  have skipped : (powerPart (fractionPart behind).2).2 <:+ text := by
    have behindSuffix : behind <:+ text := ⟨whole, wholeSplit.symm⟩
    exact ((powerPart_suffix _).trans (fractionPart_suffix behind)).trans behindSuffix
  simp only at read
  split at read
  · split at read
    next tooLong =>
      cases read
      refine ⟨skipped, fun _ _ => ⟨whole, ?_, isDigit_of_wholePart isWhole, tooLong⟩⟩
      exact ⟨[], behind, by rw [wholeSplit]; rfl⟩
    next =>
      cases read
      exact ⟨skipped, by simp⟩
  · cases read
    exact ⟨skipped, by simp⟩

theorem readNumber_goes {text rest : List Char} {found : Except Problem Number}
    (read : readNumber text = some (found, rest)) :
    rest <:+ text ∧ ∀ problem, found = .error problem → HasLongRun text := by
  rw [readNumber.eq_def] at read
  split at read
  next digits =>
    obtain ⟨suffix, longRun⟩ := readMagnitude_goes read
    refine ⟨suffix.trans (List.suffix_cons _ _), fun problem fails => ?_⟩
    obtain ⟨run, inDigits, isRun⟩ := longRun problem fails
    exact ⟨run, inDigits.trans (List.suffix_cons _ _).isInfix, isRun⟩
  next => exact readMagnitude_goes read

/-! ## Values -/

theorem readAtom_advances (text : List Char) : Advances text (readAtom text) := by
  rw [readAtom]
  split
  next word isWord =>
    obtain ⟨entry, -, rfl⟩ := Option.map_eq_some_iff.mp isWord
    exact .ok _ (List.drop_suffix _ _)
  next =>
    split
    next number rest isNumber => exact .ok _ (readNumber_goes isNumber).1
    next problem _ isNumber =>
      constructor
      · rintro _ _ ⟨⟩
      · rintro _ _ ⟨⟩ -
        exact (readNumber_goes isNumber).2 problem rfl
    next => exact .error (by simp)

mutual

theorem readValue_advances : (fuel : Nat) → (text : List Char) →
    Advances text (readValue fuel text)
  | 0, text => .error (by simp)
  | fuel + 1, text => by
      rw [readValue.eq_def]
      simp only
      split
      next rest =>
        refine .behind ?_ _
        exact (readText_advances rest).bind fun _ _ => .ok _ (List.suffix_refl _)
      next rest =>
        refine .behind (.behindSpace ?_) _
        generalize skipSpace rest = text
        split
        next => exact .ok _ (List.suffix_cons _ _)
        next => exact (readItems_advances fuel _).bind fun _ _ => .ok _ (List.suffix_refl _)
      next rest =>
        refine .behind (.behindSpace ?_) _
        generalize skipSpace rest = text
        split
        next => exact .ok _ (List.suffix_cons _ _)
        next => exact (readPairs_advances fuel _).bind fun _ _ => .ok _ (List.suffix_refl _)
      next => exact readAtom_advances text

theorem readItems_advances : (fuel : Nat) → (text : List Char) →
    Advances text (readItems fuel text)
  | 0, text => .error (by simp)
  | fuel + 1, text => by
      rw [readItems]
      refine (readValue_advances fuel text).bind fun item rest => .behindSpace ?_
      simp only
      generalize skipSpace rest = text
      split
      next => exact .ok _ (List.suffix_cons _ _)
      next behind =>
        refine .behind (.behindSpace ?_) _
        exact (readItems_advances fuel _).bind fun _ _ => .ok _ (List.suffix_refl _)
      next => exact .error (by simp)

theorem readPairs_advances : (fuel : Nat) → (text : List Char) →
    Advances text (readPairs fuel text)
  | 0, text => .error (by simp)
  | fuel + 1, text => by
      rw [readPairs.eq_def]
      simp only
      split
      next rest =>
        refine .behind ((readText_advances rest).bind fun key rest => .behindSpace ?_) _
        simp only
        generalize skipSpace rest = text
        split
        next behind =>
          refine .behind (.behindSpace ?_) _
          refine (readValue_advances fuel _).bind fun value rest => .behindSpace ?_
          simp only
          generalize skipSpace rest = text
          split
          next => exact .ok _ (List.suffix_cons _ _)
          next behind =>
            refine .behind (.behindSpace ?_) _
            exact (readPairs_advances fuel _).bind fun _ _ => .ok _ (List.suffix_refl _)
          next => exact .error (by simp)
        next => exact .error (by simp)
      next => exact .error (by simp)

end

/-- A text is refused for the digits of a number only if it has too many of them in a row. -/
theorem hasLongRun_of_read {text : String} {error : Error} {count : Nat}
    (failed : read text = .error error) (tooLong : error.problem = .tooLong count) :
    HasLongRun text.toList := by
  rw [read] at failed
  simp only at failed
  split at failed
  next =>
    cases failed
    cases tooLong
  next =>
    have advances : Advances text.toList
        (readValue (2 * text.toList.length + 2) (skipSpace text.toList)) :=
      (readValue_advances _ _).behindSpace
    rcases error_of_bind failed with failed | ⟨⟨value, rest⟩, -, failed⟩
    · exact advances.longRun error count failed tooLong
    · simp only at failed
      split at failed
      next => cases failed
      next =>
        cases failed
        cases tooLong

end CriticalCss.Json
