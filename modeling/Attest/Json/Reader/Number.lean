import Attest.Json.Reader.Basic
import Attest.Json.Value
import Attest.Number.Numeral
/-!
# Numbers in JSON text

Integers of 64 bits stay integers. Others become a 64-bit significand scaled by a power of ten.
-/

namespace Attest

namespace JsonReader

/-- Integers are collected up to this one. -/
def maxUnsigned : Nat := 18446744073709551615

def digits : JsonReader (List Char) := do
  let digits := (← get).ahead.takeWhile Char.isDigit
  skip digits.length
  return digits

/-- Appends digits to a number as long as it stays an unsigned integer; gives also those left. -/
def collect (n : Nat) : List Char → Nat × List Char
  | [] => (n, [])
  | c :: rest =>
    if maxUnsigned < n * 10 + Number.digitValue c then (n, c :: rest)
    else collect (n * 10 + Number.digitValue c) rest

def powerOfTen (n : Nat) : Number.Binary64 := .ofInt (Number.tenTo n)

/-- Greatest power of ten that is a number. -/
def maxPower : Nat := 308

/-- A magnitude over a power of ten, divided in at most `limit` goes. -/
def scaleDown : Nat → Number.Binary64 → Nat → Number.Binary64
  | 0, x, _ => x
  | limit + 1, x, power =>
    if power ≤ maxPower then x.divMagnitude (powerOfTen power)
    else if x.magnitude = 0 then x
    else scaleDown limit (x.divMagnitude (powerOfTen maxPower)) (power - maxPower)

/-- An integer times a power of ten. -/
def scaled (negative : Bool) (n : Nat) (power : Int) : JsonReader Json := do
  let x : Number.Binary64 := .ofInt n
  let result ←
    if power < 0 then pure (scaleDown 4 x power.natAbs)
    else if power ≤ maxPower then
      let product := x.mulMagnitude (powerOfTen power.natAbs)
      if product.isFinite then pure product else fail .numberRange
    else if n = 0 then pure x
    else fail .numberRange
  return .float (.ofMagnitude negative result.magnitude)

/-- Greatest exponent that is collected. -/
def maxExponent : Nat := 2147483647

/-- How many digits make an exponent too great, if they do. -/
def excessAt (exponent : Nat) : List Char → Option Nat
  | [] => none
  | c :: rest =>
    let next := exponent * 10 + Number.digitValue c
    if maxExponent < next then some 1 else (excessAt next rest).map (· + 1)

/-- The exponent ahead, for an integer times a power of ten. -/
def exponent (negative : Bool) (n : Nat) (power : Int) : JsonReader Json := do
  skip 1
  let minus := (← peek) == some '-'
  if minus || (← peek) == some '+' then skip 1
  match ← peek with
  | none => fail .endInValue
  | some c =>
    if !c.isDigit then failNext .invalidNumber
    else
      let digits := (← get).ahead.takeWhile Char.isDigit
      match excessAt 0 digits with
      | some count =>
        if n ≠ 0 && !minus then failAfter count .numberRange
        else
          skip digits.length
          return .float (.ofMagnitude negative 0)
      | none =>
        skip digits.length
        let value : Int := Number.digitsValue digits
        scaled negative n (if minus then power - value else power + value)

/-- What follows a number that is an integer times a power of ten. -/
def afterDigits (negative : Bool) (n : Nat) (power : Int) : JsonReader Json := do
  match ← peek with
  | some 'e' | some 'E' => exponent negative n power
  | _ => scaled negative n power

/-- The fraction ahead of an integer times a power of ten. Digits that do not fit are dropped. -/
def fraction (negative : Bool) (n : Nat) (power : Int) : JsonReader Json := do
  skip 1
  let digits ← digits
  if digits.isEmpty then
    match ← peek with
    | some _ => failNext .invalidNumber
    | none => failNext .endInValue
  else
    let (n, left) := collect n digits
    afterDigits negative n (power - (digits.length - left.length : Nat))

/-- A number without fraction and exponent. Negative zero and what is too small become floats. -/
def whole (negative : Bool) (n : Nat) : Json :=
  if !negative then .integer n
  else if n = 0 || -(n : Int) < Number.minInteger then
    .float (.ofMagnitude true (Number.Binary64.ofInt n).magnitude)
  else .integer (-(n : Int))

/-- The number ahead, after its sign. -/
def number (negative : Bool) : JsonReader Json := do
  match ← peek with
  | none => fail .endInValue
  | some c =>
    if !c.isDigit then failNext .invalidNumber
    else
      let ahead := (← get).ahead
      if c = '0' && (ahead[1]?).any Char.isDigit then
        skip 1
        failNext .invalidNumber
      else
        let (n, left) := collect 0 (← digits)
        match ← peek with
        | some '.' => fraction negative n left.length
        | some 'e' | some 'E' => exponent negative n left.length
        | _ => if left.isEmpty then return whole negative n else scaled negative n left.length

end JsonReader

end Attest
