import Attest.Xml.Tag
/-!
# Events of XML text

Markup and text in the order of the document. Closing tags match the opening ones; what is
wrong with an attribute or a reference is kept in its event.
-/

namespace Attest.Xml

inductive Event
  | opening (tag : Tag)
  | empty (tag : Tag)
  | closing
  | text (content : Except EscapeFault String)
  /-- Comments, declarations and processing instructions. -/
  | other

inductive MarkupFault
  | tagUnclosed
  | commentUnclosed
  | dataUnclosed
  | doctypeUnclosed
  | instructionUnclosed
  | unknownMarkup
  | doctypeName
  | mismatched (expected found : String)
  | unmatched (name : String)
  deriving DecidableEq, Repr

namespace MarkupFault

def message : MarkupFault → String
  | tagUnclosed => "syntax error: tag not closed: \x60>\x60 not found before end of input"
  | commentUnclosed => "syntax error: comment not closed: \x60-->\x60 not found before end of input"
  | dataUnclosed => "syntax error: CDATA not closed: \x60]]>\x60 not found before end of input"
  | doctypeUnclosed => "syntax error: DOCTYPE not closed: \x60>\x60 not found before end of input"
  | instructionUnclosed =>
    "syntax error: processing instruction or xml declaration not closed: \x60?>\x60 not found " ++
    "before end of input"
  | unknownMarkup => "syntax error: unknown or missed symbol in markup"
  | doctypeName =>
    "ill-formed document: \x60<!DOCTYPE>\x60 declaration does not contain a name of a document type"
  | mismatched expected found =>
    "ill-formed document: expected \x60</" ++ expected ++ ">\x60, but \x60</" ++ found ++
      ">\x60 was found"
  | unmatched name =>
    "ill-formed document: close tag \x60</" ++ name ++ ">\x60 does not match any open tag"

end MarkupFault

/-! ### Markup -/

/-- A piece of markup. -/
inductive Markup
  | opening (content : List Char)
  | empty (content : List Char)
  | closing (name : List Char)
  | data (content : List Char)
  | other

/-- Splits at the first `>` for which the characters before it, newest first, close the markup. -/
def splitMarkup (closes : List Char → Bool) (before : List Char) :
    List Char → Option (List Char × List Char)
  | [] => none
  | c :: rest =>
    if c = '>' && closes before then some (before.reverse, rest)
    else splitMarkup closes (c :: before) rest

/-- Splits at the first `>` outside of quotes. -/
def splitTag (quote : Option Char) : List Char → Option (List Char × List Char)
  | [] => none
  | c :: rest =>
    match quote with
    | none =>
      if c = '>' then some ([], rest)
      else
        let opened := if c = '"' || c = '\'' then some c else none
        (splitTag opened rest).map fun (tag, after) => (c :: tag, after)
    | some q =>
      (splitTag (if c = q then none else some q) rest).map fun (tag, after) => (c :: tag, after)

def closesComment (before : List Char) : Bool :=
  ['-', '-'].isPrefixOf before && 4 < before.length

def closesData (before : List Char) : Bool :=
  [']', ']'].isPrefixOf before

/-- The brackets before are balanced. -/
def closesDoctype (before : List Char) : Bool :=
  before.count '<' == before.count '>'

def closesInstruction (before : List Char) : Bool :=
  ['?'].isPrefixOf before

/-- A comment, from its `!`. -/
def comment (ahead : List Char) : Except MarkupFault (Markup × List Char) :=
  match splitMarkup closesComment [] ahead with
  | some (content, rest) =>
    if ['!', '-', '-'].isPrefixOf content then .ok (.other, rest) else .error .commentUnclosed
  | none => .error .commentUnclosed

def dataStart : List Char := ['!', '[', 'C', 'D', 'A', 'T', 'A', '[']

/-- Character data, from its `!`. -/
def characterData (ahead : List Char) : Except MarkupFault (Markup × List Char) :=
  match splitMarkup closesData [] ahead with
  | some (content, rest) =>
    if dataStart.isPrefixOf content then
      .ok (.data ((content.drop dataStart.length).dropLast.dropLast), rest)
    else .error .dataUnclosed
  | none => .error .dataUnclosed

def doctypeStart : List Char := ['!', 'd', 'o', 'c', 't', 'y', 'p', 'e']

/-- A document type, from its `!`. -/
def doctype (ahead : List Char) : Except MarkupFault (Markup × List Char) :=
  match splitMarkup closesDoctype [] ahead with
  | some (content, rest) =>
    if !doctypeStart.isPrefixOf (content.map Char.toLower) then .error .doctypeUnclosed
    else if (content.drop doctypeStart.length).all isSpace then .error .doctypeName
    else .ok (.other, rest)
  | none => .error .doctypeUnclosed

/-- A processing instruction or declaration, from its `?`. -/
def instruction (ahead : List Char) : Except MarkupFault (Markup × List Char) :=
  match splitMarkup closesInstruction [] ahead with
  | some (content, rest) =>
    if 1 < content.length then .ok (.other, rest) else .error .instructionUnclosed
  | none => .error .instructionUnclosed

def trimEnd (cs : List Char) : List Char :=
  (cs.reverse.dropWhile isSpace).reverse

/-- The markup for what stands between `<` and `>`. -/
def Markup.ofTag : List Char → Markup
  | '/' :: name => .closing (trimEnd name)
  | content => if content.getLast? = some '/' then .empty content.dropLast else .opening content

def tag (ahead : List Char) : Except MarkupFault (Markup × List Char) :=
  match splitTag none ahead with
  | some (content, rest) => .ok (.ofTag content, rest)
  | none => .error .tagUnclosed

/-- The markup that begins after `<`. -/
def markup : List Char → Except MarkupFault (Markup × List Char)
  | '!' :: '[' :: rest => characterData ('!' :: '[' :: rest)
  | '!' :: '-' :: rest => comment ('!' :: '-' :: rest)
  | '!' :: 'D' :: rest => doctype ('!' :: 'D' :: rest)
  | '!' :: 'd' :: rest => doctype ('!' :: 'd' :: rest)
  | '!' :: _ => .error .unknownMarkup
  | '?' :: rest => instruction ('?' :: rest)
  | ahead => tag ahead

/-! ### Documents -/

/-- Events, and what ended them before the end of the text. -/
structure Events where
  list : List Event
  fault : Option MarkupFault

namespace Events

def cons (event : Event) (events : Events) : Events :=
  { events with list := event :: events.list }

/-- Text up to the next `<`, without blanks around it, if there is any. -/
def ofText (ahead : List Char) : List Event :=
  match trimEnd ((ahead.dropWhile isSpace).takeWhile (· != '<')) with
  | [] => []
  | content => [.text ((unescape content).map String.ofList)]

/-- The event of a piece of markup, and the names of the elements that are open after it. -/
def step (opened : List String) : Markup → Except MarkupFault (Event × List String)
  | .opening content =>
    let tag := Tag.ofContent content
    .ok (.opening tag, tag.name :: opened)
  | .empty content => .ok (.empty (Tag.ofContent content), opened)
  | .closing name =>
    let name := String.ofList name
    match opened with
    | [] => .error (.unmatched name)
    | expected :: around =>
      if name = expected then .ok (.closing, around) else .error (.mismatched expected name)
  | .data content => .ok (.text (.ok (String.ofList content)), opened)
  | .other => .ok (.other, opened)

/-- The events ahead, with at most `limit` pieces of markup, within open elements. -/
def scan (opened : List String) : Nat → List Char → Events
  | 0, _ => ⟨[], none⟩
  | limit + 1, ahead =>
    let rest := match ahead.dropWhile (· != '<') with
      | [] => ⟨[], none⟩
      | _ :: ahead =>
        match markup ahead with
        | .error fault => ⟨[], some fault⟩
        | .ok (piece, ahead) =>
          match step opened piece with
          | .error fault => ⟨[], some fault⟩
          | .ok (event, opened) => cons event (scan opened limit ahead)
    (ofText ahead).foldr cons rest

/-- The events of a text, which may begin with a byte order mark. -/
def ofString (text : String) : Events :=
  match text.toList with
  | '\uFEFF' :: rest => scan [] (rest.length + 1) rest
  | cs => scan [] (cs.length + 1) cs

end Events

end Attest.Xml
