import LintHost.Json
import LintHost.Rendering.JsonArray

/-!
# Writing JSON

The compact text of a JSON value, without white space. `Json.render` keeps the members of an
object as they are; `Json.canonical` puts them in the order of their keys and keeps the last
of those with the same key, so that equal values have one text.
-/

namespace LintHost.Json

/-! ### Texts -/

/-- The written form of one character of a text: control characters have a short form or
that of their number, and all others but the quote and the backslash stand for themselves. -/
def escapeChar (c : Char) : List Char :=
  if c = '"' then ['\\', '"']
  else if c = '\\' then ['\\', '\\']
  else if c = '\n' then ['\\', 'n']
  else if c = '\r' then ['\\', 'r']
  else if c = '\t' then ['\\', 't']
  else if c.toNat = 0x08 then ['\\', 'b']
  else if c.toNat = 0x0c then ['\\', 'f']
  else if c.toNat < 0x20 then '\\' :: 'u' :: JsonArray.hex4 c.toNat
  else [c]

/-- A text between quotes. -/
def renderText (text : String) : String :=
  "\"" ++ String.ofList (text.toList.flatMap escapeChar) ++ "\""

/-! ### Values -/

mutual

/-- The compact text of a value. -/
def render : Json → String
  | .null => "null"
  | .bool value => toString value
  | .number value => value.text
  | .string value => renderText value
  | .array items => "[" ++ renderItems items ++ "]"
  | .object members => "\x7b" ++ renderMembers members ++ "\x7d"

/-- The items of an array with commas between them. -/
def renderItems : List Json → String
  | [] => ""
  | [item] => render item
  | item :: items => render item ++ "," ++ renderItems items

/-- The members of an object with commas between them. -/
def renderMembers : List (String × Json) → String
  | [] => ""
  | [(key, value)] => renderText key ++ ":" ++ render value
  | (key, value) :: members =>
    renderText key ++ ":" ++ render value ++ "," ++ renderMembers members

end

/-! ### The order of members -/

/-- A member put in its place among members in order; one with its key gives way. -/
def insertMember (key : String) (value : Json) : List (String × Json) → List (String × Json)
  | [] => [(key, value)]
  | (other, old) :: members =>
    if key < other then (key, value) :: (other, old) :: members
    else if key = other then (key, value) :: members
    else (other, old) :: insertMember key value members

mutual

/-- The value with the members of its objects in the order of their keys. -/
def canonical : Json → Json
  | .array items => .array (canonicalItems items)
  | .object members => .object (canonicalMembers members [])
  | value => value

/-- The items of an array, each in canonical form. -/
def canonicalItems : List Json → List Json
  | [] => []
  | item :: items => canonical item :: canonicalItems items

/-- The members put one after the other into those that are in order. -/
def canonicalMembers : List (String × Json) → List (String × Json) → List (String × Json)
  | [], ordered => ordered
  | (key, value) :: members, ordered =>
    canonicalMembers members (insertMember key (canonical value) ordered)

end

end LintHost.Json
