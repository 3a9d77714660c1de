import Attest.Document.Node
import Attest.Number.Decimal
import Attest.Unicode.Blank
/-!
# Comparison of nodes

Numbers compare exactly, as decimals. The text of a decimal number is a number where it meets one,
and two such texts are equal and ordered by value; the text of a boolean equals it. Null equals
null alone, and collections compare part by part.
-/

namespace Attest

open Number

namespace Node

def number? : Node → Option Decimal
  | integer n => some (.ofInt n)
  | float x => Decimal.ofBinary64? x
  | _ => none

def numeral? (text : String) : Option Decimal :=
  Decimal.read (Unicode.trimChars text.toList)

def ordinal? : Node → Option Decimal
  | string text => numeral? text
  | node => node.number?

def binary? : Node → Option Binary64
  | integer n => some (.ofInt n)
  | float x => some x
  | _ => none

/-- The boolean that a text spells. -/
def booleanText? : String → Option Bool
  | "true" => some true
  | "false" => some false
  | _ => none

/-- The order of the binary values of two numbers. -/
def binaryOrder? (a b : Node) : Option Ordering :=
  match a.binary?, b.binary? with
  | some x, some y => x.compare? y
  | _, _ => none

/-- Equality of two numbers. Those without decimal value compare as binary numbers. -/
def numbersEqual (a b : Node) : Bool :=
  match a.number?, b.number? with
  | some x, some y => x.same y
  | _, _ => binaryOrder? a b == some .eq

def numberEqualsText (a : Node) (text : String) : Bool :=
  match a.number?, numeral? text with
  | some x, some y => x.same y
  | _, _ => false

def textsEqual (a b : String) : Bool :=
  match numeral? a, numeral? b with
  | some x, some y => x.same y
  | _, _ => a == b

mutual

/-- Equality up to coercion. -/
def looseEquals : Node → Node → Bool
  | null, null => true
  | boolean a, boolean b => a == b
  | boolean a, string b => booleanText? b == some a
  | string a, boolean b => booleanText? a == some b
  | string a, string b => textsEqual a b
  | integer a, integer b => numbersEqual (integer a) (integer b)
  | integer a, float b => numbersEqual (integer a) (float b)
  | float a, integer b => numbersEqual (float a) (integer b)
  | float a, float b => numbersEqual (float a) (float b)
  | integer a, string b => numberEqualsText (integer a) b
  | float a, string b => numberEqualsText (float a) b
  | string a, integer b => numberEqualsText (integer b) a
  | string a, float b => numberEqualsText (float b) a
  | sequence a, sequence b => itemsEqual a b
  | mapping a, mapping b => entriesEqual a b
  | _, _ => false

def itemsEqual : List Node → List Node → Bool
  | [], [] => true
  | a :: as, b :: bs => looseEquals a b && itemsEqual as bs
  | _, _ => false

def entriesEqual : List (String × Node) → List (String × Node) → Bool
  | [], [] => true
  | (key, a) :: as, (other, b) :: bs => key == other && looseEquals a b && entriesEqual as bs
  | _, _ => false

end

/-- The order of two nodes without decimal values: of texts, or of binary numbers. -/
def plainOrder? : Node → Node → Option Ordering
  | string a, string b => some (compare a b)
  | a, b => binaryOrder? a b

/-- The order of two scalars: as numbers if both are, else as texts if both are. -/
def order? (a b : Node) : Option Ordering :=
  match a.ordinal?, b.ordinal? with
  | some x, some y => some (x.order y)
  | _, _ => plainOrder? a b

end Node

end Attest
