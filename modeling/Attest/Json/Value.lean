import Attest.Number.FloatText
/-!
# JSON values

Values as JSON has them, and their compact text. Each key of an object occurs once.
-/

namespace Attest

inductive Json
  | null
  | boolean (value : Bool)
  | integer (value : Int)
  | float (value : Number.Binary64)
  | string (value : String)
  | array (items : List Json)
  | object (members : List (String × Json))
  deriving Repr, Inhabited

namespace Json

/-- Binds a key to a value. A key that is there keeps its place. -/
def insert (members : List (String × Json)) (key : String) (value : Json) :
    List (String × Json) :=
  if members.any (·.1 == key) then
    members.map fun member => if member.1 == key then (key, value) else member
  else members ++ [(key, value)]

/-- Members with each key once, bound to its last value. -/
def ofMembers (members : List (String × Json)) : List (String × Json) :=
  members.foldl (fun found member => insert found member.1 member.2) []

/-! ### Text -/

/-- Numbers keep a point, and have an exponent below `1e-5` and from `1e16` on. -/
def floatStyle : Number.FloatStyle := ⟨some (-4, 16), true, true, .even⟩

def hexPair (n : Nat) : List Char :=
  [Nat.digitChar (n / 16), Nat.digitChar (n % 16)]

/-- How a character is written within a string. -/
def escapeChar (c : Char) : List Char :=
  match c with
  | '"' => ['\\', '"']
  | '\\' => ['\\', '\\']
  | '\x08' => ['\\', 'b']
  | '\x0c' => ['\\', 'f']
  | '\n' => ['\\', 'n']
  | '\r' => ['\\', 'r']
  | '\t' => ['\\', 't']
  | c => if c.toNat < 0x20 then ['\\', 'u', '0', '0'] ++ hexPair c.toNat else [c]

def quote (text : String) : String :=
  String.ofList ('"' :: (text.toList.flatMap escapeChar ++ ['"']))

mutual

/-- The text of a value, without blanks. -/
def text : Json → String
  | null => "null"
  | boolean value => toString value
  | integer value => toString value
  | float value => floatStyle.text value
  | string value => quote value
  | array items => "[" ++ itemsText items ++ "]"
  | object members => "\x7b" ++ membersText members ++ "\x7d"

def itemsText : List Json → String
  | [] => ""
  | [item] => text item
  | item :: rest => text item ++ "," ++ itemsText rest

def membersText : List (String × Json) → String
  | [] => ""
  | [(key, value)] => quote key ++ ":" ++ text value
  | (key, value) :: rest => quote key ++ ":" ++ text value ++ "," ++ membersText rest

end

end Json

end Attest
