/-!
# Binary floating-point numbers

A number is its 64 bits: sign, eleven bits of exponent, 52 bits of fraction. A finite number is
an integer times a power of two, and a quotient rounds to the nearest such number, ties to even.
-/

namespace Attest.Number

def twoTo (n : Nat) : Nat := Nat.pow 2 n

def tenTo (n : Nat) : Nat := Nat.pow 10 n

structure Binary64 where
  bits : UInt64
  deriving DecidableEq, Inhabited, Repr

namespace Binary64

/-- Fractions of 52 bits lie below this number. -/
def fractionBound : Nat := 4503599627370496

def signBit : Nat := 9223372036854775808

/-- The bits without the sign. -/
def magnitude (x : Binary64) : Nat :=
  x.bits.toNat % signBit

def isNegative (x : Binary64) : Bool :=
  signBit ≤ x.bits.toNat

/-- The magnitude of the infinities; greater magnitudes are not numbers. -/
def infiniteMagnitude : Nat := 2047 * fractionBound

def isFinite (x : Binary64) : Bool :=
  x.magnitude < infiniteMagnitude

def isNaN (x : Binary64) : Bool :=
  infiniteMagnitude < x.magnitude

def isInfinite (x : Binary64) : Bool :=
  x.magnitude == infiniteMagnitude

def ofMagnitude (negative : Bool) (magnitude : Nat) : Binary64 :=
  ⟨UInt64.ofNat (magnitude + (if negative then signBit else 0))⟩

def infinity (negative : Bool) : Binary64 :=
  ofMagnitude negative infiniteMagnitude

def significand (x : Binary64) : Nat :=
  let fraction := x.magnitude % fractionBound
  if x.magnitude < fractionBound then fraction else fraction + fractionBound

def exponent (x : Binary64) : Int :=
  (max (x.magnitude / fractionBound) 1 : Nat) - 1075

/-- Numerator and denominator of the magnitude of a finite number. -/
def ratio (x : Binary64) : Nat × Nat :=
  (x.significand * twoTo x.exponent.toNat, twoTo (-x.exponent).toNat)

/-! ### Order -/

/-- Numbers other than NaN are ordered as these keys; both zeros have the key zero. -/
def orderKey (x : Binary64) : Int :=
  if x.isNegative then -(x.magnitude : Int) else x.magnitude

def compare? (x y : Binary64) : Option Ordering :=
  if x.isNaN || y.isNaN then none else some (compare x.orderKey y.orderKey)

/-! ### Rounding -/

/-- The quotient to the nearest integer, ties to even. -/
def roundQuotient (num den : Nat) : Nat :=
  let q := num / den
  let r := num % den
  if 2 * r < den then q
  else if den < 2 * r then q + 1
  else q + q % 2

/-- The least power of two, down to `-1074`, that leaves a quotient below `2 ^ 53`. -/
def quotientExponent (num den : Nat) : Int :=
  let estimate : Int := (num.log2 : Int) - den.log2 - 52
  let below := num * twoTo (-estimate).toNat < fractionBound * (den * twoTo estimate.toNat)
  max (if below then estimate - 1 else estimate) (-1074)

/-- The number nearest to a quotient, ties to even; what is too great becomes infinite. -/
def ofRatio (negative : Bool) (num den : Nat) : Binary64 :=
  if num = 0 then ofMagnitude negative 0
  else
    let e := quotientExponent num den
    let rounded := roundQuotient (num * twoTo (-e).toNat) (den * twoTo e.toNat)
    ofMagnitude negative (min ((e + 1074).toNat * fractionBound + rounded) infiniteMagnitude)

/-- The number nearest to an integer. -/
def ofInt (n : Int) : Binary64 :=
  ofRatio (n < 0) n.natAbs 1

/-- The number nearest to a decimal numeral, given its digits and how many follow the point. -/
def ofDecimal (negative : Bool) (digits places : Nat) : Binary64 :=
  ofRatio negative digits (tenTo places)

def mulMagnitude (x y : Binary64) : Binary64 :=
  ofRatio false (x.ratio.1 * y.ratio.1) (x.ratio.2 * y.ratio.2)

def divMagnitude (x y : Binary64) : Binary64 :=
  ofRatio false (x.ratio.1 * y.ratio.2) (x.ratio.2 * y.ratio.1)

end Binary64

end Attest.Number
