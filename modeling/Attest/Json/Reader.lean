import Attest.Json.Reader.Number
import Attest.Json.Reader.Text
/-!
# Reading JSON

Values, the lists and objects that hold them, and whole texts.
-/

namespace Attest

namespace JsonReader

/-- The rest of a word, after its first character. -/
def word : List Char → JsonReader Unit
  | [] => return ()
  | c :: rest => do
    match ← peek with
    | none => fail .endInValue
    | some d =>
      if d = c then
        skip 1
        word rest
      else failNext .expectedWord

/-- The elements of a list up to its end, at most `limit`. -/
def elements (element : JsonReader Json) (first : Bool) : Nat → JsonReader (List Json)
  | 0 => failNext .expectedListEnd
  | limit + 1 => do
    match ← peekToken with
    | none => failNext .endInList
    | some ']' =>
      skip 1
      return []
    | some c =>
      if !first then
        if c = ',' then
          skip 1
          match ← peekToken with
          | some ']' => failNext .trailingComma
          | none => failNext .endInValue
          | some _ => pure ()
        else failNext .expectedListEnd
      let head ← element
      return head :: (← elements element false limit)

def key : JsonReader String := do
  match ← peekToken with
  | some '"' => string
  | _ => failNext .keyNotString

/-- The value of a key, from the colon on. -/
def keyValue (element : JsonReader Json) : JsonReader Json := do
  match ← peekToken with
  | some ':' =>
    skip 1
    element
  | some _ => failNext .expectedColon
  | none => failNext .endInObject

/-- The members of an object up to its end, at most `limit`. -/
def members (element : JsonReader Json) (first : Bool) : Nat → JsonReader (List (String × Json))
  | 0 => failNext .expectedObjectEnd
  | limit + 1 => do
    match ← peekToken with
    | none => failNext .endInObject
    | some '\x7d' =>
      skip 1
      return []
    | some c =>
      if !first then
        if c = ',' then
          skip 1
          match ← peekToken with
          | some '\x7d' => failNext .trailingComma
          | none => failNext .endInValue
          | some _ => pure ()
        else failNext .expectedObjectEnd
      let key ← key
      let value ← keyValue element
      return (key, value) :: (← members element false limit)

/-- A list or an object, which may lie within others. -/
def collection (opening : Char) (element : JsonReader Json) : JsonReader Json := do
  skip 1
  let limit := (← get).ahead.length + 1
  if opening = '[' then return .array (← elements element true limit)
  else return .object (Json.ofMembers (← members element true limit))

/-- A value, with room for `room` lists and objects one in the other. -/
def value (room : Nat) : JsonReader Json := do
  match ← peekToken with
  | none => failNext .endInValue
  | some 'n' => skip 1; word ['u', 'l', 'l']; return .null
  | some 't' => skip 1; word ['r', 'u', 'e']; return .boolean true
  | some 'f' => skip 1; word ['a', 'l', 's', 'e']; return .boolean false
  | some '-' => skip 1; number true
  | some '"' => return .string (← string)
  | some c =>
    if c = '[' || c = '\x7b' then
      match room with
      | 0 => failNext .tooDeep
      | room + 1 => collection c (value room)
    else if c.isDigit then number false
    else failNext .expectedValue

/-- Lists and objects nest at most this deep. -/
def maxDepth : Nat := 127

/-- A value and nothing after it. -/
def document : JsonReader Json := do
  let json ← value maxDepth
  match ← peekToken with
  | none => return json
  | some _ => failNext .trailingCharacters

end JsonReader

namespace Json

def read (text : String) : Except JsonError Json :=
  (JsonReader.document.run ⟨⟨1, 0⟩, text.toList⟩).map (·.1)

end Json

end Attest
