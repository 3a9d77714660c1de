import Attest.Pattern.Tree
import Attest.Unicode.Blank
import Attest.Unicode.Property
import Attest.Unicode.Script
/-!
# Classes with names

The sets behind `\d`, `[:alpha:]` and `\p`. Names of properties compare without case, blanks,
hyphens, underscores and a leading `is`.
-/

namespace Attest.Pattern

open Unicode

/-- The name as properties compare. -/
def looseName (name : String) : String :=
  let cs := name.toList
  let hasIs := (cs.take 2).map Char.toLower == ['i', 's']
  let kept := (if hasIs then cs.drop 2 else cs).filter fun c =>
    c.toNat < 128 && c ≠ ' ' && c ≠ '_' && c ≠ '-'
  let loose := String.ofList (kept.map Char.toLower)
  if hasIs && loose == "c" then "isc" else loose

def script? (name : String) : Option CodePoints :=
  scripts.lookup ((scriptAliases.lookup name).getD name)

/-- Points that are used in a script, also if they belong to another or to none. -/
def scriptUse? (name : String) : Option CodePoints :=
  let name := (scriptAliases.lookup name).getD name
  (scripts.lookup name).map fun own =>
    if name == "common" || name == "inherited" then own.diff (unions (scriptExtensions.map (·.2)))
    else own.union ((scriptExtensions.lookup name).getD [])

/-- Properties with values of which no sets are kept. -/
def valuedProperties : List String := [
  "age", "block", "blk", "bidiclass", "bc", "canonicalcombiningclass", "ccc",
  "decompositiontype", "dt", "eastasianwidth", "ea", "graphemeclusterbreak", "gcb",
  "hangulsyllabletype", "hst", "joininggroup", "jg", "joiningtype", "jt", "linebreak", "lb",
  "name", "na", "numerictype", "nt", "numericvalue", "nv", "sentencebreak", "sb", "wordbreak",
  "wb"]

/-- The set of a property, or why there is none. -/
def querySet : PropertyQuery → Except FaultKind CodePoints
  | .name name =>
    let name := looseName name
    let property := if ["cf", "sc", "lc"].contains name then none else property? name
    match property.or ((category? name).or (script? name)) with
    | some set => .ok set
    | none => .error (if ["cs", "surrogate"].contains name then .propertyValueNotFound
        else .propertyNotFound)
  | .value property value =>
    let value := looseName value
    let found : Option (Option CodePoints) := match looseName property with
      | "generalcategory" | "gc" => some (category? value)
      | "script" | "sc" => some (script? value)
      | "scriptextensions" | "scx" => some (scriptUse? value)
      | name =>
        if (property? name).isSome || valuedProperties.contains name then some none else none
    match found with
    | some (some set) => .ok set
    | some none => .error .propertyValueNotFound
    | none => .error .propertyNotFound

/-! ### ASCII classes -/

def charRange (first last : Char) : Nat × Nat := (first.toNat, last.toNat)

def asciiSpaces : CodePoints := [(9, 13), (32, 32)]

def asciiWord : CodePoints :=
  [charRange '0' '9', charRange 'A' 'Z', charRange '_' '_', charRange 'a' 'z']

/-- The set of a class such as `[:alpha:]`. -/
def namedSet : String → CodePoints
  | "alnum" => [charRange '0' '9', charRange 'A' 'Z', charRange 'a' 'z']
  | "alpha" => [charRange 'A' 'Z', charRange 'a' 'z']
  | "ascii" => [(0, 127)]
  | "blank" => [(9, 9), (32, 32)]
  | "cntrl" => [(0, 31), (127, 127)]
  | "digit" => [charRange '0' '9']
  | "graph" => [(33, 126)]
  | "lower" => [charRange 'a' 'z']
  | "print" => [(32, 126)]
  | "punct" => [(33, 47), (58, 64), (91, 96), (123, 126)]
  | "space" => asciiSpaces
  | "upper" => [charRange 'A' 'Z']
  | "word" => asciiWord
  | "xdigit" => [charRange '0' '9', charRange 'A' 'F', charRange 'a' 'f']
  | _ => []

/-! ### Shorthand classes -/

/-- Letters, marks, decimal digits, connectors and joiners. -/
def wordPoints : CodePoints :=
  unions [(property? "alphabetic").getD [], category "m", category "nd", category "pc",
    listed "joincontrol"]

def digitPoints : CodePoints := category "nd"

def shorthandSet (unicode : Bool) : Shorthand → CodePoints
  | .digit => if unicode then digitPoints else [charRange '0' '9']
  | .space => if unicode then blanks else asciiSpaces
  | .word => if unicode then wordPoints else asciiWord

end Attest.Pattern
