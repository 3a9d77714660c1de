import Attest.Language.Form
/-!
# Manual

How each form is called and what it says, and an overview of the language.
-/

namespace Attest

namespace Form

def usage : Form → String
  | .exists => "exists(path)"
  | .size => "size(path, count)"
  | .equals => "equals(left, right)"
  | .notEquals => "not-equals(left, right)"
  | .equalsIgnoreCase => "equals-ignore-case(left, right)"
  | .contains => "contains(collection, item)"
  | .startsWith => "starts-with(text, prefix)"
  | .endsWith => "ends-with(text, suffix)"
  | .matches => "matches(text, \"pattern\")"
  | .greaterThan => "greater-than(left, right)"
  | .greaterOrEqual => "greater-or-equal(left, right)"
  | .lessThan => "less-than(left, right)"
  | .lessOrEqual => "less-or-equal(left, right)"
  | .between => "between(value, low, high)"

def summary : Form → String
  | .exists => "path matches at least one node"
  | .size => "number of members equals count"
  | .equals => "values are equal after coercion"
  | .notEquals => "values differ after coercion"
  | .equalsIgnoreCase => "scalar texts are equal ignoring case"
  | .contains => "sequence holds item, or mapping has key item"
  | .startsWith => "scalar text starts with prefix"
  | .endsWith => "scalar text ends with suffix"
  | .matches => "regular expression matches anywhere in the text"
  | .greaterThan => "left orders after right"
  | .greaterOrEqual => "left does not order before right"
  | .lessThan => "left orders before right"
  | .lessOrEqual => "left does not order after right"
  | .between => "low <= value <= high"

/-- The line of a form, with its summary in a column of its own. -/
def manualLine (form : Form) : String :=
  "  " ++ form.usage ++ String.ofList (List.replicate (34 - form.usage.length) ' ') ++ form.summary

end Form

/-- What else there is to know, line by line. -/
def manualNotes : List String := [
  "",
  "QUANTIFIERS",
  "  all F(path, ...)                  every member of path satisfies F (true when empty)",
  "  any F(path, ...)                  some member of path satisfies F (false when empty)",
  "    Not allowed on exists and size.",
  "",
  "OPERANDS",
  "  order.items[0].price              path from the document root",
  "  $ / $.order / [\"odd key\"]         explicit root, quoted keys",
  "  items[*]                          every child",
  "  order.item[1]                     second value of a repeated key or array",
  "  $name / name                      a variable bound by 'let name = path;'",
  "  \"text\" 3 1.5 true null            literals",
  "",
  "COERCION",
  "  - Numbers compare exactly; numeric strings compare as numbers against numbers",
  "    and against each other (\"3\" equals \"3.0\")",
  "  - \"true\"/\"false\" equal the matching boolean",
  "  - null equals only null",
  "  - Ordering needs two numbers or two strings",
  "",
  "COMBINING",
  "  and, or, not, ( ... )             short-circuit boolean logic",
  "  F(...); G(...)                    every top-level statement must hold"]

def manual : String :=
  let lines := ["SPECL ASSERTION FORMS", ""] ++ Form.every.map Form.manualLine ++ manualNotes
  String.join (lines.map (· ++ "\n"))

end Attest
