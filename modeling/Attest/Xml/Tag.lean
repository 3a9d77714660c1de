import Attest.Xml.Escape
/-!
# Tags

The name and the attributes of a tag. Positions of errors count the bytes of the tag after its `<`.
-/

namespace Attest.Xml

inductive AttributeFault
  | expectedEquals (position : Nat)
  | expectedValue (position : Nat)
  | unquotedValue (position : Nat)
  | missingQuote (position : Nat) (quote : Char)
  | duplicated (position first : Nat)
  deriving DecidableEq, Repr

namespace AttributeFault

def message : AttributeFault → String
  | expectedEquals position =>
    "position " ++ toString position ++
      ": attribute key must be directly followed by \x60=\x60 or space"
  | expectedValue position =>
    "position " ++ toString position ++ ": \x60=\x60 must be followed by an attribute value"
  | unquotedValue position =>
    "position " ++ toString position ++
      ": attribute value must be enclosed in \x60\"\x60 or \x60'\x60"
  | missingQuote position quote =>
    "position " ++ toString position ++ ": missing closing quote \x60" ++ quote.toString ++
      "\x60 in attribute value"
  | duplicated position first =>
    "position " ++ toString position ++
      ": duplicated attribute, previous declaration at position " ++ toString first

end AttributeFault

inductive TagFault
  | attribute (fault : AttributeFault)
  | escape (fault : EscapeFault)
  deriving DecidableEq, Repr

/-- A tag, or what is wrong with the first bad attribute. -/
structure Tag where
  name : String
  attributes : Except TagFault (List (String × String))

def isSpace (c : Char) : Bool :=
  c == ' ' || c == '\t' || c == '\n' || c == '\r'

/-- Characters from a position on. -/
structure Ahead where
  position : Nat
  chars : List Char

namespace Ahead

def skip (a : Ahead) (text : List Char) : Ahead :=
  ⟨a.position + Text.byteCount text, a.chars.drop text.length⟩

def skipSpaces (a : Ahead) : Ahead :=
  a.skip (a.chars.takeWhile isSpace)

def stop (a : Ahead) : Nat :=
  a.position + Text.byteCount a.chars

end Ahead

/-- A key that stands ahead, with the characters after the `=` that follows it. The first
character belongs to the key whatever it is. -/
def readKey (a : Ahead) : Except AttributeFault (List Char × Ahead) :=
  let key := a.chars.take 1 ++ (a.chars.drop 1).takeWhile fun c => c != '=' && !isSpace c
  let after := (a.skip key).skipSpaces
  match after.chars with
  | '=' :: _ => .ok (key, after.skip ['='])
  | _ => .error (.expectedEquals after.position)

/-- A value between quotes, with the characters after it. -/
def readValue (a : Ahead) : Except AttributeFault (List Char × Ahead) :=
  let a := a.skipSpaces
  match a.chars with
  | [] => .error (.expectedValue a.position)
  | quote :: _ =>
    if quote != '"' && quote != '\'' then .error (.unquotedValue a.position)
    else
      let body := a.skip [quote]
      let value := body.chars.takeWhile (· != quote)
      let after := body.skip value
      if after.chars.isEmpty then .error (.missingQuote after.position quote)
      else .ok (value, after.skip [quote])

/-- At most `limit` attributes, after others whose keys and their positions are known. -/
def readAttributes (seen : List (List Char × Nat)) :
    Nat → Ahead → Except TagFault (List (String × String))
  | 0, _ => .ok []
  | limit + 1, a => do
    let a := a.skipSpaces
    if a.chars.isEmpty then return []
    let (key, after) ← (readKey a).mapError .attribute
    if let some first := seen.lookup key then
      throw (.attribute (.duplicated a.position first))
    let (raw, after) ← (readValue after).mapError .attribute
    let value ← (unescape raw).mapError .escape
    let rest ← readAttributes ((key, a.position) :: seen) limit after
    return (String.ofList key, String.ofList value) :: rest

def Tag.ofContent (content : List Char) : Tag :=
  let name := content.takeWhile fun c => !isSpace c
  let after := Ahead.skip ⟨0, content⟩ name
  ⟨String.ofList name, readAttributes [] content.length after⟩

end Attest.Xml
