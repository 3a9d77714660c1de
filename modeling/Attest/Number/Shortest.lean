import Attest.Number.Binary64
/-!
# Shortest decimals

The decimal with the fewest digits that rounds to a given binary number and, among those, the one
nearest to it. Decimals lie on grids of powers of ten; the coarsest grid with a point between the
neighbouring midpoints gives the digits.
-/

namespace Attest.Number

/-- Which of two equally near decimals is taken. -/
inductive Tie
  | up
  | even
  deriving DecidableEq, Repr

/-- A number of digits times a power of ten. -/
structure Digits where
  digits : Nat
  exponent : Int
  deriving DecidableEq, Repr

namespace Digits

/-- The digits without trailing zeros, dropping at most `limit`. -/
def strip : Nat → Digits → Digits
  | 0, d => d
  | limit + 1, d =>
    if d.digits ≠ 0 ∧ d.digits % 10 = 0 then strip limit ⟨d.digits / 10, d.exponent + 1⟩ else d

end Digits

namespace Binary64

/-- Quarters of the unit in the last place from the lower midpoint to a finite number. -/
def lowerGap (x : Binary64) : Nat :=
  if x.significand = fractionBound ∧ x.exponent ≠ -1074 then 1 else 2

/-- Floor of the decimal logarithm of a positive quotient. -/
def decimalExponent (num den : Nat) : Int :=
  let estimate : Int := ((num.log2 : Int) - den.log2 - 1) * 30103 / 100000
  let reaches (e : Int) : Bool := den * tenTo e.toNat ≤ num * tenTo (-e).toNat
  if reaches (estimate + 2) then estimate + 2
  else if reaches (estimate + 1) then estimate + 1
  else if reaches estimate then estimate
  else estimate - 1

/-- The point of the grid of `10 ^ k` that reads back as the number and is nearest to it. -/
def gridPoint? (tie : Tie) (x : Binary64) (k : Int) : Option Nat :=
  let up := twoTo (x.exponent - 2).toNat * tenTo (-k).toNat
  let den := twoTo (2 - x.exponent).toNat * tenTo k.toNat
  let value := 4 * x.significand * up
  let low := (4 * x.significand - x.lowerGap) * up
  let high := (4 * x.significand + 2) * up
  let inside (point : Nat) : Bool :=
    if x.significand % 2 = 0 then low ≤ point * den && point * den ≤ high
    else low < point * den && point * den < high
  let below := value / den
  let above := below + 1
  match inside below, inside above with
  | true, true =>
    let r := value % den
    let tieGoesUp := tie = .up ∨ below % 2 = 1
    some (if 2 * r < den then below else if den < 2 * r ∨ tieGoesUp then above else below)
  | true, false => some below
  | false, true => some above
  | false, false => none

/-- The first point found on the grids for `count`, `count + 1`, … digits, trying `limit` grids. -/
def searchGrids (tie : Tie) (x : Binary64) (top : Int) : Nat → Nat → Digits
  | _, 0 => ⟨x.significand, 0⟩
  | count, limit + 1 =>
    match gridPoint? tie x (top - count) with
    | some point => ⟨point, top - count⟩
    | none => searchGrids tie x top (count + 1) limit

/-- The shortest decimal of a finite number other than zero. -/
def shortest (tie : Tie) (x : Binary64) : Digits :=
  let top := decimalExponent x.ratio.1 x.ratio.2
  (searchGrids tie x top 0 18).strip 18

end Binary64

end Attest.Number
