import Attest.Pattern.Reader.Basic
import Attest.Unicode.Alphabetic
/-!
# Groups

What a parenthesis opens: flags, or a group with a name or flags.
-/

namespace Attest.Pattern

namespace Reader

def flag? : Char → Option Flag
  | 'i' => some .caseInsensitive
  | 'm' => some .multiLine
  | 's' => some .dotMatchesNewLine
  | 'U' => some .swapGreed
  | 'u' => some .unicode
  | 'R' => some .crlf
  | 'x' => some .ignoreWhitespace
  | _ => none

/-- What has been read of a list of flags: each sign with its place, newest first. -/
abbrev FlagSigns := List (Option Flag × Span)

/-- Flags with the state that each is switched to, from signs in order. -/
def flagsOf (on : Bool) : List (Option Flag × Span) → Flags
  | [] => []
  | (none, _) :: rest => flagsOf false rest
  | (some flag, _) :: rest => (flag, on) :: flagsOf on rest

/-- Signs up to `:` or `)`, newest first. -/
def flagSigns : Nat → FlagSigns → Read FlagSigns
  | 0, signs => return signs
  | fuel + 1, signs => do
    match (← ahead).head? with
    | none => failHere .flagUnexpectedEnd
    | some c =>
      if c = ':' || c = ')' then return signs
      let span : Span := ⟨← here, ← afterNext⟩
      let sign ← show Read (Option Flag) from
        if c = '-' then return none
        else match flag? c with
          | some flag => return some flag
          | none => failNext .flagUnrecognized
      if let some (_, earlier) := signs.find? fun s => s.1 == sign then
        let kind : FaultKind := if sign.isNone then .flagRepeatedNegation else .flagDuplicate
        throw ⟨kind, span, some earlier⟩
      if !(← advance) then failHere .flagUnexpectedEnd
      flagSigns fuel ((sign, span) :: signs)

/-- Flags up to `:` or `)`. -/
def flags : Read Flags := do
  let signs ← flagSigns ((← ahead).length + 1) []
  match signs with
  | (none, span) :: _ => fail .flagDanglingNegation span.start span.stop
  | _ => return flagsOf true signs.reverse

def isGroupNameChar (first : Bool) (c : Char) : Bool :=
  if first then c == '_' || Unicode.isAlphabetic c
  else c == '_' || c == '.' || c == '[' || c == ']' || Unicode.isAlphanumeric c

/-- Characters of a group name up to `>`, newest first. -/
def groupNameChars : Nat → List Char → Read (List Char)
  | 0, name => return name
  | fuel + 1, name => do
    match (← ahead).head? with
    | none => failHere .groupNameUnexpectedEnd
    | some c =>
      if c = '>' then return name
      if !isGroupNameChar name.isEmpty c then failNext .groupNameInvalid
      skip 1
      groupNameChars fuel (c :: name)

/-- Reads a group name and its `>`; no two groups have one name. -/
def groupName : Read Unit := do
  let start ← here
  let name ← groupNameChars ((← ahead).length + 1) []
  let span : Span := ⟨start, ← here⟩
  skip 1
  if name.isEmpty then fail .groupNameEmpty start start
  let name := String.ofList name.reverse
  match (← get).names.lookup name with
  | some earlier => throw ⟨.groupNameDuplicate, span, some earlier⟩
  | none => modify fun s => { s with names := (name, span) :: s.names }

/-- What `(` opens: flags for the rest of the group around it, or a group. -/
inductive Opening
  | flags (span : Span) (flags : Flags)
  | group (span : Span) (captures : Bool) (flags : Flags)

/-- Reads from `(` to the beginning of what the group holds. -/
def opening : Read Opening := do
  let start ← here
  let span : Span := ⟨start, ← afterNext⟩
  skip 1
  skipBlanks
  let lookAround ← ["?=", "?!", "?<=", "?<!"].anyM accept
  if lookAround then fail .lookAround start (← here)
  let inside ← here
  if (← accept "?P<") || (← accept "?<") then
    groupName
    return .group span true []
  else if ← accept "?" then
    if ← atEnd then fail .groupUnclosed span.start span.stop
    let flags ← flags
    let closes ← isNext ')'
    skip 1
    if closes then
      if flags.isEmpty then fail .repetitionMissing inside inside
      return .flags ⟨start, ← here⟩ flags
    else return .group span false flags
  else return .group span true []

end Reader

end Attest.Pattern
