import CriticalCss.Number

/-!
# Time

Times and delays are given in milliseconds and kept exactly, so that no two of them are confused.
-/

namespace CriticalCss

/-- A point in time, or a span of time, in fractions of a millisecond so small that every double is
a whole number of them. -/
abbrev Instant := Int

/-- The span that a number of milliseconds makes; an infinite or undefined number makes none. -/
def Number.span? (milliseconds : Number) : Option Instant :=
  match milliseconds.point? with
  | some (.at units) => some units
  | _ => none

/-- Whether a number of milliseconds has a number of seconds: a whole number may be beyond all
doubles even when divided. -/
def Number.hasSeconds (milliseconds : Number) : Bool :=
  match milliseconds with
  | .whole value => (Binary64.roundRatio false value.natAbs 1000).isFinite
  | _ => true

end CriticalCss
