import LintHost.Text.Quoted
import LintHost.Text.Shortest

/-!
# JSON values

Settings, and everything that an editor and the language server say to each other, are JSON.
An object keeps its members in the order in which they were written; where a key occurs
twice the last occurrence counts, which is what `Json.member?` looks for.

`Json.describe` names a value in a message about its type.
-/

namespace LintHost

/-- A JSON number: a whole number of at most 64 bits, or a double with a sign of its own, since
a zero may be negative. -/
inductive JsonNumber where
  | whole (value : Int)
  | fraction (negative : Bool) (value : Text.Double)
deriving DecidableEq, Inhabited

/-- A JSON value. -/
inductive Json where
  | null
  | bool (value : Bool)
  | number (value : JsonNumber)
  | string (value : String)
  | array (items : List Json)
  | object (members : List (String × Json))
deriving Inhabited

namespace JsonNumber

/-- Whether a whole number fits into 64 bits, signed or not. -/
def fits (n : Int) : Bool :=
  -0x8000000000000000 ≤ n && n < 0x10000000000000000

/-- The text of the number. -/
def text : JsonNumber → String
  | .whole value => toString value
  | .fraction negative value => String.ofList (Text.renderDouble negative value)

end JsonNumber

namespace Json

/-- The value of a natural number. -/
def ofNat (n : Nat) : Json :=
  .number (.whole n)

/-- The value of an integer. -/
def ofInt (n : Int) : Json :=
  .number (.whole n)

/-- The last value of a key among the members of an object. -/
def lastOf? (key : String) (members : List (String × Json)) : Option Json :=
  members.reverse.lookup key

/-- The value of a key of an object; a value that is no object has no members. -/
def member? (key : String) : Json → Option Json
  | .object members => lastOf? key members
  | _ => none

/-- Whether the value is `null`. -/
def isNull : Json → Bool
  | .null => true
  | _ => false

/-- The value in a message about its type. -/
def describe : Json → String
  | .null => "null"
  | .bool value => "boolean `" ++ toString value ++ "`"
  | .number n@(.whole _) => "integer `" ++ n.text ++ "`"
  | .number n@(.fraction ..) => "floating point `" ++ n.text ++ "`"
  | .string value => "string " ++ String.ofList (Text.quote value.toList)
  | .array _ => "sequence"
  | .object _ => "map"

end Json

end LintHost
