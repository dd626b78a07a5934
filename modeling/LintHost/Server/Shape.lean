import LintHost.Json.Writer
import LintHost.Uri

/-!
# The shapes of values

What a message carries is JSON of a known shape: a `Shape` describes it, and `Shape.read` finds
the first thing that is wrong with a value, or gives it back with every record written as an
object of the fields that are known.

* A record is an object, in which other members are skipped. They are looked at in the order
  of the value, and what is missing is noticed at the end. An array of the fields in their
  declared order stands for a record as well; only those that have a default may be left out
  at its end.
* A field that is optional may be missing or `null`.
* Some records take over the fields of others. Those are only objects, and what belongs to the
  other records is read after their own fields.
* Where a value may have one of several shapes, the faults of each are not told.

The objects of the values are expected in the order of their keys, `Json.canonical`.
-/

namespace LintHost

/-! ### Faults -/

/-- Why a value does not have the shape that is asked for. -/
inductive ShapeError where
  | missingField (name : String)
  | wrongType (got : Json) (wanted : String)
  /-- The value has the right type, but is none of those that can stand there. -/
  | wrongValue (got : Json) (wanted : String)
  | notUri (text : String) (cause : UriError)
  /-- The text is none of the words that can stand there. -/
  | unknownWord (got : String) (known : List String)
  /-- The value has none of the shapes of a choice. -/
  | noChoice (name : String)
  /-- An array stands for a record and is too short. -/
  | tooFewItems (count : Nat) (record : String) (fields : Nat)
  /-- An array stands for a record and is too long. -/
  | tooManyItems (count : Nat)
  /-- The same where the array has been set aside before it was read. -/
  | itemsLeft (count fields : Nat)
deriving Inhabited

namespace ShapeError

/-- A name between marks. -/
def marked (name : String) : String :=
  "`" ++ name ++ "`"

/-- The words that can stand somewhere, in a message. -/
def choiceText : List String → String
  | [] => "there are no variants"
  | [word] => "expected " ++ marked word
  | [first, second] => "expected " ++ marked first ++ " or " ++ marked second
  | words => "expected one of " ++ ", ".intercalate (words.map marked)

/-- A number of items. -/
def elements (count : Nat) : String :=
  Nat.repr count ++ if count = 1 then " element" else " elements"

/-- The wording of a fault. -/
def message : ShapeError → String
  | .missingField name => "missing field " ++ marked name
  | .wrongType got wanted => "invalid type: " ++ got.describe ++ ", expected " ++ wanted
  | .wrongValue got wanted => "invalid value: " ++ got.describe ++ ", expected " ++ wanted
  | .notUri text cause => cause.message ++ ": " ++ String.ofList (Text.quote text.toList)
  | .unknownWord got known => "unknown variant " ++ marked got ++ ", " ++ choiceText known
  | .noChoice name => "data did not match any variant of untagged enum " ++ name
  | .tooFewItems count record fields =>
    "invalid length " ++ Nat.repr count ++ ", expected struct " ++ record ++ " with " ++
      elements fields
  | .tooManyItems count =>
    "invalid length " ++ Nat.repr count ++ ", expected fewer elements in array"
  | .itemsLeft count fields =>
    "invalid length " ++ Nat.repr count ++ ", expected " ++ elements fields ++ " in sequence"

end ShapeError

/-- A value of a certain shape, or what is wrong with it. -/
abbrev Shaped (α : Type) := Except ShapeError α

/-! ### Shapes -/

/-- The shape of a value. -/
inductive Shape where
  | any
  | flag
  | text
  | uri
  /-- A whole number of 32 bits with a sign. -/
  | int32
  /-- A whole number of 32 bits without a sign. -/
  | nat32
  | decimal
  | word (known : List String)
  /-- Two values of one shape. -/
  | pair (item : Shape)
  | list (item : Shape)
  /-- An object whose keys have a shape, and whose values have one. -/
  | table (wanted : String) (key item : Shape)
  /-- The content or `null`. -/
  | optional (content : Shape)
  /-- A field that may be left out everywhere. -/
  | defaulted (content : Shape)
  /-- The content; `null` or a flag says whether there is one. -/
  | switch (content : Shape)
  | oneOf (name : String) (choices : List Shape)
  /-- An object that says in one of its members which record the others make. -/
  | tagged (tag : String) (choices : List (String × Shape))
  | record (name : String) (fields : List (String × Shape))
  /-- A record with fields of its own and those of other records; the members that belong to
  none of them have one shape. -/
  | merged (name : String) (own : List (String × Shape))
      (parts : List (List (String × Shape))) (rest : Shape)
deriving Inhabited

namespace Shape

/-- Whether a field of the shape may be missing in an object. -/
def mayBeMissing : Shape → Bool
  | .optional _ | .defaulted _ | .switch _ => true
  | _ => false

/-- Whether a field of the shape may be left out at the end of an array. -/
def hasDefault : Shape → Bool
  | .defaulted _ | .switch _ => true
  | _ => false

/-! ### Plain values -/

/-- A flag. -/
def readFlag : Json → Shaped Json
  | .bool value => .ok (.bool value)
  | got => .error (.wrongType got "a boolean")

/-- A text. -/
def readText : Json → Shaped Json
  | .string value => .ok (.string value)
  | got => .error (.wrongType got "a string")

/-- A URI, which stays a text. -/
def readUri : Json → Shaped Json
  | .string value =>
    match Uri.parse value with
    | .ok _ => .ok (.string value)
    | .error e => .error (.notUri value e)
  | got => .error (.wrongType got "a string representing an URL")

/-- A whole number between two bounds, the upper one excluded. -/
def readWhole (low high : Int) (wanted : String) : Json → Shaped Json
  | .number (.whole value) =>
    if low ≤ value ∧ value < high then .ok (.ofInt value)
    else .error (.wrongValue (.ofInt value) wanted)
  | got => .error (.wrongType got wanted)

/-- A number. -/
def readDecimal : Json → Shaped Json
  | .number value => .ok (.number value)
  | got => .error (.wrongType got "f32")

/-- One of some words. -/
def checkWord (known : List String) (name : String) : Shaped Json :=
  if known.contains name then .ok (.string name) else .error (.unknownWord name known)

/-- One of some words, which may also be the key of an object with nothing in it. -/
def readWord (known : List String) : Json → Shaped Json
  | .string name => checkWord known name
  | .object [(name, content)] => do
    let word ← checkWord known name
    if content.isNull then return word else throw (.wrongType content "unit")
  | .object members => .error (.wrongValue (.object members) "map with a single key")
  | got => .error (.wrongType got "string or map")

/-! ### Values with parts -/

/-- How the values of a shape are read. -/
abbrev Reader := Json → Shaped Json

/-- A list, each item by itself. -/
def readList (item : Reader) : Reader
  | .array items => .array <$> items.mapM item
  | got => .error (.wrongType got "a sequence")

/-- A list of two items. -/
def readPair (item : Reader) : Reader
  | .array [first, second] => do return .array [← item first, ← item second]
  | got => .error (.wrongType got "an array of length 2")

/-- A table, each key before its value. -/
def readTable (wanted : String) (key item : Reader) : Reader
  | .object members =>
    .object <$> members.mapM fun (name, value) => do
      let _ ← key (.string name)
      return (name, ← item value)
  | got => .error (.wrongType got wanted)

/-- A value that may be `null`. -/
def readOptional (content : Reader) : Reader
  | .null => .ok .null
  | value => content value

/-- A value, or only whether there is one. -/
def readSwitch (content : Reader) : Reader
  | .null => .ok .null
  | .bool value => .ok (.bool value)
  | value => content value

/-- The first reading that succeeds. -/
def readChoice (name : String) (choices : List Reader) (value : Json) : Shaped Json :=
  match choices.findSome? fun read => (read value).toOption with
  | some read => .ok read
  | none => .error (.noChoice name)

/-- The record that a member names, read from the other members. -/
def readTagged (tag : String) (choices : List (String × Reader)) : Reader
  | .object members => do
    let others := members.filter fun member => member.1 ≠ tag
    match Json.lastOf? tag members with
    | none => throw (.missingField tag)
    | some (.string name) =>
      match choices.lookup name with
      | some read => read (.object others)
      | none => throw (.unknownWord name (choices.map Prod.fst))
    | some got => throw (.wrongType got "variant identifier")
  | .array (.string name :: others) =>
    match choices.lookup name with
    | some read => read (.array others)
    | none => .error (.unknownWord name (choices.map Prod.fst))
  | got => .error (.wrongType got "internally tagged enum")

/-! ### Records -/

/-- A field of a record: where it may be left out, and how it is read. -/
structure FieldReader where
  name : String
  mayBeMissing : Bool
  hasDefault : Bool
  read : Reader

/-- The members that are fields, each read; others are skipped. -/
def readKnown (fields : List FieldReader) :
    List (String × Json) → Shaped (List (String × Json))
  | [] => .ok []
  | (name, value) :: members =>
    match fields.find? fun field => field.name = name with
    | none => readKnown fields members
    | some field => do
      let value ← field.read value
      return (name, value) :: (← readKnown fields members)

/-- Looks whether a field is missing that has to be there. -/
def checkMissing (members : List (String × Json)) : List FieldReader → Shaped Unit
  | [] => .ok ()
  | field :: fields =>
    if field.mayBeMissing || (Json.lastOf? field.name members).isSome then
      checkMissing members fields
    else .error (.missingField field.name)

/-- The fields of a record among the members of an object. -/
def readFields (fields : List FieldReader) (members : List (String × Json)) :
    Shaped (List (String × Json)) := do
  let known ← readKnown fields members
  checkMissing members fields
  return known

/-- The fields of a record among the items of an array: as many as there are, and how many
items have been taken. The record and the number of its fields are for the message. -/
def readItems (record : String) (count : Nat) :
    Nat → List FieldReader → List Json → Shaped (List (String × Json))
  | _, [], _ => .ok []
  | taken, field :: fields, [] =>
    if field.hasDefault then readItems record count (taken + 1) fields []
    else .error (.tooFewItems taken record count)
  | taken, field :: fields, item :: items => do
    let value ← field.read item
    return (field.name, value) :: (← readItems record count (taken + 1) fields items)

/-- A record. A value that has been set aside before words the surplus of an array in another
way. -/
def readRecord (name : String) (setAside : Bool) (fields : List FieldReader) : Reader
  | .object members => .object <$> readFields fields members
  | .array items => do
    let members ← readItems name fields.length 0 fields items
    if items.length ≤ fields.length then return .object members
    else if setAside then throw (.itemsLeft items.length fields.length)
    else throw (.tooManyItems items.length)
  | got => .error (.wrongType got ("struct " ++ name))

/-- A record with the fields of others: its own fields, those of each other record, and what
is left. -/
def readMerged (name : String) (own : List FieldReader) (parts : List (List FieldReader))
    (rest : Reader) : Reader
  | .object members => do
    let _ ← readFields own members
    let _ ← parts.mapM fun fields => readFields fields members
    let known := (own :: parts).flatMap fun fields => fields.map FieldReader.name
    let left := members.filter fun member => ! known.contains member.1
    let _ ← left.mapM fun member => rest member.2
    return .object members
  | got => .error (.wrongType got ("struct " ++ name))

/-! ### All shapes -/

mutual

/-- How a shape is read, and whether from a value that has been set aside before. -/
def reader : Bool → Shape → Reader
  | _, .any => .ok
  | _, .flag => readFlag
  | _, .text => readText
  | _, .uri => readUri
  | _, .int32 => readWhole (-0x80000000) 0x80000000 "i32"
  | _, .nat32 => readWhole 0 0x100000000 "u32"
  | _, .decimal => readDecimal
  | _, .word known => readWord known
  | b, .pair item => readPair (reader b item)
  | b, .list item => readList (reader b item)
  | b, .table wanted key item => readTable wanted (reader b key) (reader b item)
  | b, .optional content => readOptional (reader b content)
  | b, .defaulted content => reader b content
  | b, .switch content => readSwitch (reader b content)
  | _, .oneOf name choices => readChoice name (choiceReaders choices)
  | _, .tagged tag choices => readTagged tag (taggedReaders choices)
  | b, .record name fields => readRecord name b (fieldReaders b fields)
  | b, .merged name own parts rest =>
    readMerged name (fieldReaders b own) (partReaders parts) (reader true rest)

/-- How the shapes of a choice are read. -/
def choiceReaders : List Shape → List Reader
  | [] => []
  | choice :: choices => reader true choice :: choiceReaders choices

/-- How the records of a choice by name are read. -/
def taggedReaders : List (String × Shape) → List (String × Reader)
  | [] => []
  | (name, choice) :: choices => (name, reader true choice) :: taggedReaders choices

/-- How the fields of a record are read. -/
def fieldReaders : Bool → List (String × Shape) → List FieldReader
  | _, [] => []
  | b, (name, shape) :: fields =>
    { name, mayBeMissing := shape.mayBeMissing, hasDefault := shape.hasDefault
      read := reader b shape } :: fieldReaders b fields

/-- How the fields of other records are read. -/
def partReaders : List (List (String × Shape)) → List (List FieldReader)
  | [] => []
  | fields :: parts => fieldReaders true fields :: partReaders parts

end

/-- Reads a value of a shape. -/
def read (shape : Shape) (value : Json) : Shaped Json :=
  shape.reader false value

end Shape

end LintHost
