import Attest.Number.Binary64
import Attest.Number.Numeral
/-!
# Decimal numbers

A decimal number is an integer over a power of ten. Numerals and binary numbers become decimals
with a coefficient below `2 ^ 96` and at most 28 places; further digits are rounded away.
-/

namespace Attest.Number

structure Decimal where
  coefficient : Int
  scale : Nat
  deriving DecidableEq, Repr

namespace Decimal

/-- Coefficients stay below this bound. -/
def coefficientBound : Nat := 79228162514264337593543950336

/-- Digits kept after the point. -/
def maxScale : Nat := 28

def ofInt (n : Int) : Decimal := ⟨n, 0⟩

def ofMagnitude (negative : Bool) (coefficient scale : Nat) : Decimal :=
  ⟨if negative then -(coefficient : Int) else coefficient, scale⟩

/-! ### Order -/

/-- Decimals are ordered as the numbers they denote. -/
def order (a b : Decimal) : Ordering :=
  compare (a.coefficient * tenTo b.scale) (b.coefficient * tenTo a.scale)

/-- Two decimals denote one number. -/
def same (a b : Decimal) : Bool :=
  a.coefficient * tenTo b.scale == b.coefficient * tenTo a.scale

/-! ### Numerals -/

/-- Digits that are rounded away, with `_` between. -/
def isDropped (c : Char) : Bool :=
  c.isDigit || c == '_'

/-- Rounds by the first character that no longer fits; a half goes away from zero. -/
def roundAt (coefficient scale : Nat) (c : Char) (rest : List Char) : Option (Nat × Nat) :=
  if !(isDropped c || c == '.') || !rest.all isDropped then none
  else if !c.isDigit || digitValue c < 5 then some (coefficient, scale)
  else if coefficient + 1 < coefficientBound then some (coefficient + 1, scale)
  else if scale = 0 then none
  else some ((coefficient + 5) / 10, scale - 1)

/-- Reads the digits of a numeral: `point` after its point, `seen` after its first digit. -/
def readDigits (point seen : Bool) (coefficient scale : Nat) : List Char → Option (Nat × Nat)
  | [] => if seen then some (coefficient, scale) else none
  | c :: rest =>
    if c.isDigit then
      let next := coefficient * 10 + digitValue c
      let places := if point then scale + 1 else scale
      if coefficientBound ≤ next then
        if point then roundAt coefficient scale c rest else none
      else
        match rest with
        | [] => some (next, places)
        | following :: others =>
          if point && maxScale ≤ places then roundAt next places following others
          else readDigits point true next places rest
    else if c = '.' && !point then readDigits true seen coefficient scale rest
    else if c = '_' && seen then readDigits point seen coefficient scale rest
    else none

/-- A numeral without exponent: an optional sign, digits, at most one point, and `_` between. -/
def readPositional (cs : List Char) : Option Decimal :=
  match cs with
  | '-' :: rest => (readDigits false false 0 0 rest).map fun (c, s) => ofMagnitude true c s
  | '+' :: rest => (readDigits false false 0 0 rest).map fun (c, s) => ofMagnitude false c s
  | _ => (readDigits false false 0 0 cs).map fun (c, s) => ofMagnitude false c s

/-- The number of an exponent after its minus sign. -/
def readCount (cs : List Char) : Option Nat :=
  let digits := match cs with
    | '+' :: rest => rest
    | _ => cs
  if digits.isEmpty || !digits.all Char.isDigit then none
  else some (digitsValue digits)

/-- Divides by a power of ten, as long as the places suffice. -/
def shiftRight (d : Decimal) (count : Nat) : Option Decimal :=
  if d.scale + count ≤ maxScale then some ⟨d.coefficient, d.scale + count⟩ else none

/-- Multiplies by a power of ten, up to the greatest scale and within the bound. -/
def shiftLeft (d : Decimal) (count : Nat) : Option Decimal :=
  if count ≤ d.scale then some ⟨d.coefficient, d.scale - count⟩
  else if maxScale < count then none
  else
    let coefficient := d.coefficient * tenTo (count - d.scale)
    if coefficient.natAbs < coefficientBound then some ⟨coefficient, 0⟩ else none

def isExponentMark (c : Char) : Bool :=
  c == 'e' || c == 'E'

def read (cs : List Char) : Option Decimal := do
  let d ← readPositional (cs.takeWhile fun c => !isExponentMark c)
  match cs.dropWhile fun c => !isExponentMark c with
  | [] => return d
  | _ :: '-' :: exponent => d.shiftRight (← readCount exponent)
  | _ :: exponent => d.shiftLeft (← readCount exponent)

/-! ### Binary numbers -/

/-- A magnitude times a power of ten on its way to a decimal. -/
structure Scaled where
  magnitude : Nat
  power : Int

/-- Turns `count` factors of one half into tenths, halving where multiplying by five overflows. -/
def halvesToTenths : Nat → Scaled → Scaled
  | 0, s => s
  | count + 1, s =>
    halvesToTenths count <|
      if s.magnitude % 2 = 0 then ⟨s.magnitude / 2, s.power + 1⟩
      else if s.magnitude * 5 < coefficientBound then ⟨s.magnitude * 5, s.power⟩
      else ⟨s.magnitude / 2, s.power + 1⟩

/-- Turns `count` factors of two into tens, dividing by five where doubling overflows. -/
def twosToTens : Nat → Scaled → Scaled
  | 0, s => s
  | count + 1, s =>
    twosToTens count <|
      if s.magnitude * 2 < coefficientBound then ⟨s.magnitude * 2, s.power - 1⟩
      else ⟨s.magnitude / 5, s.power⟩

/-- Multiplies by ten `count` times, within the bound. -/
def timesTens : Nat → Nat → Option Nat
  | 0, n => some n
  | count + 1, n => if n * 10 < coefficientBound then timesTens count (n * 10) else none

/-- A tenth of a magnitude, to the nearest integer, a half up. -/
def tenth (n : Nat) : Nat := (n + 5) / 10

/-- Drops `count` places; a magnitude below ten becomes zero. -/
def dropPlaces : Nat → Scaled → Scaled
  | 0, s => s
  | count + 1, s =>
    if s.magnitude < 10 then ⟨0, 0⟩ else dropPlaces count ⟨tenth s.magnitude, s.power + 1⟩

/-- Drops places, at most `limit`, until the magnitude is below `2 ^ 52`. -/
def dropExcess : Nat → Scaled → Scaled
  | 0, s => s
  | limit + 1, s =>
    if s.power < 0 ∧ Binary64.fractionBound ≤ s.magnitude then
      dropExcess limit ⟨tenth s.magnitude, s.power + 1⟩
    else s

/-- Drops zeros after the point, at most `limit`. -/
def dropZeros : Nat → Scaled → Scaled
  | 0, s => s
  | limit + 1, s =>
    if s.power < 0 ∧ s.magnitude % 10 = 0 then dropZeros limit ⟨s.magnitude / 10, s.power + 1⟩
    else s

/-- The decimal for a binary number, without the digits beyond the precision of the binary number.
Infinities, NaN and numbers too great have none. -/
def ofBinary64? (x : Binary64) : Option Decimal :=
  if !x.isFinite then none
  else
    let start : Scaled := ⟨x.significand, x.exponent⟩
    let s := if x.exponent < 0 then halvesToTenths x.exponent.natAbs start
      else twosToTens x.exponent.natAbs start
    (timesTens s.power.toNat s.magnitude).map fun magnitude =>
      let fitted := dropPlaces (-maxScale - s.power).toNat ⟨magnitude, min s.power 0⟩
      let final := dropZeros maxScale (dropExcess maxScale fitted)
      ofMagnitude x.isNegative final.magnitude (-final.power).toNat

end Decimal

end Attest.Number
