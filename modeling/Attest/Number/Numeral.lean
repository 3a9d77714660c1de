/-!
# Numerals

Values of digits and of digits in a row, and the range of integers of 64 bits.
-/

namespace Attest.Number

def minInteger : Int := -9223372036854775808

def maxInteger : Int := 9223372036854775807

def digitValue (c : Char) : Nat := c.toNat - '0'.toNat

def digitsValue (digits : List Char) : Nat :=
  digits.foldl (fun n c => n * 10 + digitValue c) 0

/-- The value of a digit in a base, in which letters follow the decimal digits. -/
def digitValue? (base : Nat) (c : Char) : Option Nat :=
  let value? :=
    if c.isDigit then some (digitValue c)
    else if 'a' ≤ c && c ≤ 'z' then some (c.toNat - 'a'.toNat + 10)
    else if 'A' ≤ c && c ≤ 'Z' then some (c.toNat - 'A'.toNat + 10)
    else none
  value?.filter (· < base)

def isHexDigit (c : Char) : Bool :=
  (digitValue? 16 c).isSome

/-- The number that hexadecimal digits denote. -/
def hexValue (digits : List Char) : Nat :=
  digits.foldl (fun n c => n * 16 + (digitValue? 16 c).getD 0) 0

end Attest.Number
