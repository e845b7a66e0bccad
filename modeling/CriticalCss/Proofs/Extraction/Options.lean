import CriticalCss.Proofs.Extraction.Checks
import CriticalCss.Proofs.Pattern.Problems

/-!
# Which faults of the options are not faults of the input

What is wrong with the options of an extraction is a fault of the input: a list of entries that is
none, an item that is no entry, a height or a delay that is no number or out of range, and a text
that is no pattern.  Only a pattern can be worse than wrong: a number in it may be too large, or a
look-behind may reach back too far, and then the fault is passed on as it is.  A text without such
numbers and without look-behinds cannot do that.
-/

namespace CriticalCss

/-- What is worse about a pattern than that it is wrong, and the label that it is known by. -/
inductive Pattern.Problem.IsWorse : Pattern.Problem → (label : String) → Prop where
  | countTooLarge : IsWorse .countTooLarge "OverflowError"
  | codeTooLarge : IsWorse .codeTooLarge "OverflowError"
  /-- Only some versions of the engine fail in this way. -/
  | tooFarBehind : IsWorse .tooFarBehind "RuntimeError"

/-- There is nothing in the text of a pattern that could make it worse than wrong. -/
def Pattern.IsTame (source : List Char) : Prop :=
  ∀ problem label, problem.IsWorse label → ¬ HasCause source problem

theorem Pattern.not_isWorse_of_parse {source label : String} {error : Error}
    (tame : IsTame source.toList) (failed : parse source = .error error) :
    ¬ error.problem.IsWorse label :=
  fun worse => tame _ label worse (hasCause_of_parse failed)

namespace Options

open Extraction.Settings (optionFamilies)

variable {item forceInclude height delay : Value} {source : String} {error : Pattern.Error}
  {fault : Fault}

/-- What is wrong with a pattern counts as a fault of the options, or it is worse. -/
theorem badPattern_cases (source : String) (error : Pattern.Error) :
    (Fault.badPattern source error).family ∈ optionFamilies ∨
      error.problem.IsWorse (Fault.badPattern source error).label := by
  obtain ⟨problem, position⟩ := error
  cases problem with
  | countTooLarge => exact .inr .countTooLarge
  | codeTooLarge => exact .inr .codeTooLarge
  | tooFarBehind => exact .inr .tooFarBehind
  | _ => exact .inl (by simp [Fault.family, optionFamilies])

theorem badPattern_of_isWorse {label : String} (worse : error.problem.IsWorse label) :
    (Fault.badPattern source error).label = label ∧
      (Fault.badPattern source error).family ∉ optionFamilies ∧ label ≠ "InputError" := by
  obtain ⟨problem, position⟩ := error
  cases worse <;> exact ⟨rfl, by simp [Fault.family, optionFamilies], by decide⟩

theorem entryOf_eq_badPattern (holds : HoldsPattern item source)
    (failed : Pattern.parse source = .error error) :
    entryOf item = .error (.badPattern source error) := by
  cases holds with
  | object value type =>
      have made : ForceInclude.ofPattern source = .error error := by
        rw [ForceInclude.ofPattern]
        split
        next parsed => cases failed.symm.trans parsed
        next other parsed =>
          cases failed.symm.trans parsed
          rfl
      simp only [entryOf, value, type, Option.bind_some, Value.text?, Option.any_some,
        Value.isText, beq_self_eq_true, if_true, made]

theorem entryOf_cases (failed : entryOf item = .error fault) :
    fault.family ∈ optionFamilies ∨ ∃ source error, HoldsPattern item source ∧
      Pattern.parse source = .error error ∧ fault = .badPattern source error := by
  have fails : FailsWith (fun fault => fault.family ∈ optionFamilies ∨ ∃ source error,
      HoldsPattern item source ∧ Pattern.parse source = .error error ∧
        fault = .badPattern source error) (entryOf item) := by
    apply entryOf_failsWith
    · exact .inl (by simp [Fault.family, optionFamilies])
    · exact .inl (by simp [Fault.family, optionFamilies])
    · exact fun source error holds failed => .inr ⟨source, error, holds, failed, rfl⟩
  exact fails fault failed

/-- Making options fails for the entries, or in a way that counts as a fault of the options. -/
theorem build_cases (failed : build forceInclude height delay = .error fault) :
    fault.family ∈ optionFamilies ∨ entriesOf forceInclude = .error fault := by
  have fails : FailsWith
      (fun fault => fault.family ∈ optionFamilies ∨ entriesOf forceInclude = .error fault)
      (build forceInclude height delay) := by
    apply build_failsWith_of_entriesOf
    case entries => exact fun _ failed => .inr failed
    all_goals
      intros
      exact .inl (by simp [Fault.family, optionFamilies])
  exact fails fault failed

end Options

namespace Extraction

variable {settings : Settings} {label : String} {fault : Fault}

/-- Entries up to a pattern that is worse than wrong. -/
inductive Settings.Slips (settings : Settings) (label : String) : Prop where
  | pattern {front back : List Value} {item : Value} {source : String} {error : Pattern.Error} :
      settings.forceInclude.elements? = some (front ++ item :: back) →
      (∀ earlier ∈ front, ∃ entry, Options.entryOf earlier = .ok entry) →
      Options.HoldsPattern item source → Pattern.parse source = .error error →
      error.problem.IsWorse label → settings.Slips label

theorem options_failsWith_slips :
    FailsWith (fun fault => fault.family = .input ∨ settings.Slips fault.label)
      settings.options := by
  rw [Settings.options]
  split
  next => exact .ok _
  next cause failed =>
  split
  next => exact .error (.inl rfl)
  next notCounted =>
    apply FailsWith.error
    rw [List.contains_iff_mem] at notCounted
    have entriesFail := (Options.build_cases failed).resolve_left notCounted
    rw [Options.entriesOf] at entriesFail
    split at entriesFail
    next =>
      cases entriesFail
      simp [Fault.family, Settings.optionFamilies] at notCounted
    next items listed =>
      obtain ⟨front, item, back, rfl, earlier, failed⟩ := mapM_eq_error_iff.mp entriesFail
      obtain ⟨source, error, holds, unread, rfl⟩ :=
        (Options.entryOf_cases failed).resolve_left notCounted
      have worse := (Options.badPattern_cases source error).resolve_left notCounted
      exact .inr (.pattern listed earlier holds unread worse)

/-- What is worse about a pattern is passed on as it is, if the entries before it can be made. -/
theorem options_eq_badPattern {front back : List Value} {item : Value} {source : String}
    {error : Pattern.Error}
    (listed : settings.forceInclude.elements? = some (front ++ item :: back))
    (earlier : ∀ earlier ∈ front, ∃ entry, Options.entryOf earlier = .ok entry)
    (holds : Options.HoldsPattern item source) (failed : Pattern.parse source = .error error)
    (worse : error.problem.IsWorse label) :
    settings.options = .error (.badPattern source error) := by
  have entriesFail : Options.entriesOf settings.forceInclude =
      .error (.badPattern source error) := by
    simp only [Options.entriesOf, listed]
    exact mapM_eq_error_iff.mpr ⟨front, item, back, rfl, earlier,
      Options.entryOf_eq_badPattern holds failed⟩
  have buildFails : Options.build settings.forceInclude settings.height settings.renderWait =
      .error (.badPattern source error) := by
    rw [Options.build, entriesFail]
    rfl
  have notCounted : (Fault.badPattern source error).family ∉ Settings.optionFamilies :=
    (Options.badPattern_of_isWorse worse).2.1
  rw [← List.contains_iff_mem] at notCounted
  simp only [Settings.options, buildFails, if_neg notCounted]

theorem options_of_slips (slips : settings.Slips label) : ∃ fault,
    settings.options = .error fault ∧ fault.label = label ∧ label ≠ "InputError" := by
  cases slips with
  | pattern listed earlier holds failed worse =>
      obtain ⟨isLabel, -, notInput⟩ := Options.badPattern_of_isWorse worse
      exact ⟨_, options_eq_badPattern listed earlier holds failed worse, isLabel, notInput⟩

/-- Patterns that settings name are tame. -/
def Settings.IsTame (settings : Settings) : Prop :=
  ∀ items item source, settings.forceInclude.elements? = some items → item ∈ items →
    Options.HoldsPattern item source → Pattern.IsTame source.toList

theorem Settings.IsTame.not_slips (tame : settings.IsTame) : ¬ settings.Slips label := by
  rintro ⟨listed, -, holds, failed, worse⟩
  exact Pattern.not_isWorse_of_parse (tame _ _ _ listed (by simp) holds) failed worse

/-- The options of settings are made, or what is wrong with them is a fault of the input, unless it
is a pattern with a number that is too large or a look-behind that reaches back too far. -/
theorem options_slip_iff (settings : Settings) :
    (∀ label, (∃ fault, settings.options = .error fault ∧ fault.label = label ∧
      label ≠ "InputError") ↔ settings.Slips label) ∧
    (settings.IsTame → ∀ fault, settings.options = .error fault →
      fault.label = "InputError") := by
  refine ⟨fun label => ⟨?_, options_of_slips⟩, ?_⟩
  · rintro ⟨fault, failed, rfl, notInput⟩
    rcases options_failsWith_slips fault failed with input | slips
    · exact absurd (Fault.label_of_input input) notInput
    · exact slips
  · intro tame fault failed
    rcases options_failsWith_slips fault failed with input | slips
    · exact Fault.label_of_input input
    · exact absurd slips tame.not_slips

/-- Settings with a pattern that repeats a character too often. -/
def countless : Settings :=
  { Settings.standard with
    forceInclude := .list [.object
      [("type", .text "RegExp"), ("value", .text "a\x7b4294967295\x7d")]] }

theorem countless_slips :
    countless.options =
      .error (.badPattern "a\x7b4294967295\x7d" ⟨.countTooLarge, none⟩) ∧
    (Fault.badPattern "a\x7b4294967295\x7d" ⟨.countTooLarge, none⟩).label = "OverflowError" := by
  have isTooLarge : (match Pattern.parse "a\x7b4294967295\x7d" with
      | .error error => decide (error = ⟨.countTooLarge, none⟩)
      | .ok _ => false) = true := by
    decide +kernel
  split at isTooLarge
  next error failed =>
    obtain rfl := of_decide_eq_true isTooLarge
    have listed : countless.forceInclude.elements? = some ([] ++ [.object
        [("type", .text "RegExp"), ("value", .text "a\x7b4294967295\x7d")]]) := rfl
    exact ⟨options_eq_badPattern listed nofun (.object rfl rfl) failed .countTooLarge, rfl⟩
  next => cases isTooLarge

end Extraction

end CriticalCss
