import Attest.Number.Shortest
/-!
# Text of binary numbers

A number is written by its shortest decimal, positionally or with an exponent. A style says where
positional notation ends and how the parts are spelled.
-/

namespace Attest.Number

structure FloatStyle where
  /-- Least and greatest place of the point, counted from the first digit, written positionally. -/
  positional : Option (Int × Int)
  /-- An integer written positionally ends in `.0`. -/
  keepsPoint : Bool
  /-- An exponent that is not negative has a sign. -/
  plusSign : Bool
  tie : Tie

namespace FloatStyle

/-- Positional and without a needless point. -/
def plain : FloatStyle := ⟨none, false, false, .up⟩

def isPositional (style : FloatStyle) (point : Int) : Bool :=
  match style.positional with
  | none => true
  | some (least, greatest) => least ≤ point && point ≤ greatest

/-- Digits with the point after the first `point` of them, which may lie outside. -/
def positionalText (style : FloatStyle) (digits : List Char) (point : Int) : List Char :=
  if point ≤ 0 then
    ['0', '.'] ++ List.replicate (-point).toNat '0' ++ digits
  else if digits.length ≤ point.toNat then
    digits ++ List.replicate (point.toNat - digits.length) '0' ++
      (if style.keepsPoint then ['.', '0'] else [])
  else digits.take point.toNat ++ ['.'] ++ digits.drop point.toNat

/-- Digits with the point after the first and the power of ten. -/
def exponentText (style : FloatStyle) (digits : List Char) (point : Int) : List Char :=
  let power := point - 1
  let sign := if power < 0 then ['-'] else if style.plusSign then ['+'] else []
  let fraction := match digits.drop 1 with
    | [] => []
    | rest => '.' :: rest
  digits.take 1 ++ fraction ++ ['e'] ++ sign ++ Nat.toDigits 10 power.natAbs

/-- The magnitude of a finite number. -/
def magnitudeText (style : FloatStyle) (x : Binary64) : List Char :=
  if x.magnitude = 0 then '0' :: (if style.keepsPoint then ['.', '0'] else [])
  else
    let shortest := x.shortest style.tie
    let digits := Nat.toDigits 10 shortest.digits
    let point := digits.length + shortest.exponent
    if style.isPositional point then style.positionalText digits point
    else style.exponentText digits point

/-- The text of a number in a style. -/
def text (style : FloatStyle) (x : Binary64) : String :=
  let sign := if x.isNegative then ['-'] else []
  if x.isNaN then "NaN"
  else if x.isInfinite then String.ofList (sign ++ ['i', 'n', 'f'])
  else String.ofList (sign ++ style.magnitudeText x)

end FloatStyle

end Attest.Number
