import CriticalCss.Number.Binary64

/-!
# Decimal numbers

A decimal is a whole number of digits with a power of ten.  It stands between the text of a number
and the double it denotes: reading rounds it, and a layout says how it is written.
-/

namespace CriticalCss

/-- The number `± digits * 10 ^ exponent`. -/
structure Decimal where
  negative : Bool
  digits : Nat
  exponent : Int
  deriving DecidableEq

namespace Decimal

/-- The double nearest to a decimal.  Exponents far outside the range of doubles are settled
without raising ten to them. -/
def toBinary64 (value : Decimal) : Binary64 :=
  if value.digits = 0 then Binary64.zero value.negative
  else match value.exponent with
    | .ofNat power =>
      if 400 < power then .infinite value.negative
      else Binary64.roundRatio value.negative (value.digits * Nat.pow 10 power) 1
    | .negSucc power =>
      if Nat.log2 value.digits + 400 < power then Binary64.zero value.negative
      else Binary64.roundRatio value.negative value.digits (Nat.pow 10 (power + 1))

/-- The same number without zeros at the end of its digits. -/
def trim (digits : Nat) (exponent : Int) : Nat × Int :=
  if digits = 0 then (0, 0)
  else if digits % 10 = 0 then trim (digits / 10) (exponent + 1)
  else (digits, exponent)
termination_by digits
decreasing_by omega

/-- How a decimal is laid out as text. -/
structure Layout where
  /-- Lowest power of the leading digit that is written by position. -/
  lowestPositional : Int
  /-- Highest power of the leading digit that is written by position. -/
  highestPositional : Int
  /-- Least number of digits of a written power of ten. -/
  powerWidth : Nat

/-- Powers of ten are written from `1e+16` up and from `1e-05` down, with at least two digits. -/
def Layout.standard : Layout := ⟨-4, 15, 2⟩

/-- Digits by position, always with a place after the point. -/
def positional (digits : List Char) (exponent : Int) : List Char :=
  match exponent with
  | .ofNat power => digits ++ List.replicate power '0' ++ ['.', '0']
  | .negSucc power =>
    let places := power + 1
    if places < digits.length then
      digits.take (digits.length - places) ++ '.' :: digits.drop (digits.length - places)
    else '0' :: '.' :: List.replicate (places - digits.length) '0' ++ digits

/-- A signed power of ten with at least `width` digits. -/
def powerText (width : Nat) (power : Int) : List Char :=
  let digits := Nat.toDigits 10 power.natAbs
  (if power < 0 then '-' else '+') :: List.replicate (width - digits.length) '0' ++ digits

/-- One leading digit, the others after a point, and a power of ten. -/
def scientific (width : Nat) (digits : List Char) (power : Int) : List Char :=
  let fraction := if digits.tail.isEmpty then [] else '.' :: digits.tail
  digits.head?.toList ++ fraction ++ 'e' :: powerText width power

/-- The text of a decimal under a layout. -/
def render (layout : Layout) (value : Decimal) : List Char :=
  let (trimmed, exponent) := trim value.digits value.exponent
  let digits := Nat.toDigits 10 trimmed
  let leading := exponent + (digits.length : Int) - 1
  let sign := if value.negative then ['-'] else []
  if layout.lowestPositional ≤ leading ∧ leading ≤ layout.highestPositional then
    sign ++ positional digits exponent
  else sign ++ scientific layout.powerWidth digits leading

end Decimal

end CriticalCss
