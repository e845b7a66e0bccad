import CriticalCss.Extraction
import CriticalCss.Proofs.Criticality
import CriticalCss.Proofs.Failing

/-!
# What passes the checks of an extraction

The checks of an extraction are those of its parts, one after the other.  What passes them all is
passed on as it is, and what does not fails as one of the parts does.
-/

namespace CriticalCss

variable {fits : Fault → Prop}

/-- A fault that names a value is met as it is, or for the number in it that is too long. -/
theorem Fault.fits_naming {value : Value} {fault : Fault} (tooLong : fits .numberTooLong)
    (named : fits fault) : fits (naming value fault) := by
  rw [naming]
  split
  · exact tooLong
  · exact named

namespace Options

theorem comparable_failsWith {relation : String} {value : Value}
    (unordered : fits (.unordered relation value.kind .whole)) :
    FailsWith fits (comparable relation value) := by
  cases value with
  | number held => exact .ok held
  | _ => exact .error unordered

/-- An item that holds the text of a pattern. -/
inductive HoldsPattern : (item : Value) → (source : String) → Prop where
  | object {fields : Fields} {source : String} :
      fields.get? "value" = some (.text source) → fields.get? "type" = some (.text "RegExp") →
      HoldsPattern (.object fields) source

theorem eq_text_of_text? {value : Value} {text : String} (isText : value.text? = some text) :
    value = .text text := by
  cases value with
  | text held =>
      cases isText
      rfl
  | _ => cases isText

theorem any_isText_iff {type : Option Value} {wanted : String} :
    type.any (·.isText wanted) = true ↔ type = some (.text wanted) := by
  cases type with
  | none => simp
  | some value => rw [Option.any_some, Value.isText_iff, Option.some.injEq]

/-- An item fails to be an entry for what it is, or for the pattern in it. -/
theorem entryOf_failsWith {item : Value} (tooLong : fits .numberTooLong)
    (noEntry : fits (.badEntry item))
    (noPattern : ∀ source error, HoldsPattern item source → Pattern.parse source = .error error →
      fits (.badPattern source error)) : FailsWith fits (entryOf item) := by
  rw [entryOf.eq_def]
  split
  · exact .ok _
  · exact .ok _
  next fields =>
    split
    · exact .error (Fault.fits_naming tooLong noEntry)
    next source isText =>
      obtain ⟨value, found, isText⟩ := Option.bind_eq_some_iff.mp isText
      rw [eq_text_of_text? isText] at found
      split
      next isPattern =>
        have typed := any_isText_iff.mp isPattern
        split
        · exact .ok _
        next error made =>
          rw [ForceInclude.ofPattern] at made
          split at made
          · cases made
          next parsed =>
            cases made
            exact .error (noPattern source error (.object found typed) parsed)
      · exact .ok _
  · exact .error (Fault.fits_naming tooLong noEntry)

/-- Making options fails as making the entries does, or for the numbers. -/
theorem build_failsWith_of_entriesOf {forceInclude height delay : Value}
    (entries : FailsWith fits (entriesOf forceInclude)) (tooLong : fits .numberTooLong)
    (unordered : ∀ relation kind, fits (.unordered relation kind .whole))
    (notPositive : ∀ number, fits (.heightNotPositive number))
    (negative : ∀ number, fits (.delayNegative number)) :
    FailsWith fits (build forceInclude height delay) := by
  apply entries.bind
  intro _
  apply (comparable_failsWith (unordered "<=" height.kind)).bind
  intro height
  split
  · apply (comparable_failsWith (unordered "<" delay.kind)).bind
    intro delay
    split
    · exact .ok _
    · exact .error (Fault.fits_naming tooLong (negative delay))
  · exact .error (Fault.fits_naming tooLong (notPositive height))

/-- Making options fails as its parts do. -/
theorem build_failsWith {forceInclude height delay : Value}
    (notIterable : fits (.notIterable forceInclude.kind))
    (entries : ∀ items, forceInclude.elements? = some items →
      ∀ item ∈ items, FailsWith fits (entryOf item)) (tooLong : fits .numberTooLong)
    (unordered : ∀ relation kind, fits (.unordered relation kind .whole))
    (notPositive : ∀ number, fits (.heightNotPositive number))
    (negative : ∀ number, fits (.delayNegative number)) :
    FailsWith fits (build forceInclude height delay) := by
  have entriesFail : FailsWith fits (entriesOf forceInclude) := by
    simp only [entriesOf]
    split
    · exact .error notIterable
    next items listed => exact .mapM (entries items listed)
  exact build_failsWith_of_entriesOf entriesFail tooLong unordered notPositive negative

end Options

namespace Stylesheet

theorem validateRules_failsWith {rules : Value}
    (malformed : ∀ violations, fits (.malformedRules violations)) :
    FailsWith fits (validateRules rules) := by
  rw [validateRules]
  split
  · exact .ok ()
  · exact .error (malformed _)

end Stylesheet

namespace Extraction

variable {url : String} {settings : Settings} {rules : Value} {order : Order}

/-- The options of the settings are those that can be built from them. -/
theorem build_of_options {options : Options} (made : settings.options = .ok options) :
    Options.build settings.forceInclude settings.height settings.renderWait = .ok options := by
  rw [Settings.options] at made
  split at made
  next built =>
    cases made
    exact built
  · split at made <;> cases made

/-- An order is what has been given, and each of its parts has been checked. -/
structure IsChecked (url : String) (settings : Settings) (rules : Value) (order : Order) :
    Prop where
  named : url ≠ ""
  options : Options.build settings.forceInclude settings.height settings.renderWait =
    .ok order.options
  browser : settings.browser = .ok order.settings
  valid : Stylesheet.validateRules rules = .ok ()
  rules : order.rules = rules

/-- The checks pass only what has been checked. -/
theorem isChecked_of_check (checked : check url settings rules = .ok order) :
    IsChecked url settings rules order := by
  rw [check] at checked
  split at checked
  · cases checked
  next named =>
    obtain ⟨options, made, checked⟩ := exists_ok_of_bind checked
    obtain ⟨browser, browserMade, checked⟩ := exists_ok_of_bind checked
    obtain ⟨_, valid, checked⟩ := exists_ok_of_bind checked
    cases checked
    constructor
    · rintro rfl
      exact named rfl
    · exact build_of_options made
    · exact browserMade
    · exact valid
    · rfl

/-- The checks fail as the parts do.  The settings of the browser are made once the address is there
and the options have passed. -/
theorem check_failsWith_parts (missing : fits .missingUrl)
    (options : FailsWith fits settings.options)
    (browser : url ≠ "" → ∀ options, settings.options = .ok options →
      FailsWith fits settings.browser)
    (malformed : ∀ violations, fits (.malformedRules violations)) :
    FailsWith fits (check url settings rules) := by
  rw [check]
  split
  · exact .error missing
  next named =>
    have named : url ≠ "" := by
      rintro rfl
      exact named rfl
    cases built : settings.options with
    | error fault => exact .error (options fault built)
    | ok made =>
        apply (browser named made built).bind
        intro _
        apply (Stylesheet.validateRules_failsWith malformed).bind
        intro _
        exact .ok _

/-- The standard settings keep nothing but the universal selector. -/
theorem standard_options : Settings.standard.options = .ok .plain := by
  have positive : (Number.whole 900).atMost (.whole 0) = false := by decide +kernel
  have nonnegative : (Number.whole 100).less (.whole 0) = false := by decide +kernel
  simp [Settings.options, Settings.standard, Options.build, Options.entriesOf,
    Options.comparable, Value.ofInt, Value.elements?, Options.standardDelay,
    Browser.standardHeight, Bind.bind, Except.bind, pure, Except.pure, positive, nonnegative,
    Options.plain, Options.withUniversal]

theorem standard_browser : Settings.standard.browser = .ok .standard := by
  have positive : (Number.whole 1300).atMost (.whole 0) = false := by decide +kernel
  simp [Settings.browser, Settings.standard, Options.comparable, Value.ofInt,
    Browser.standardWidth, Bind.bind, Except.bind, pure, Except.pure, positive, headers,
    Browser.Settings.standard]

end Extraction

end CriticalCss
