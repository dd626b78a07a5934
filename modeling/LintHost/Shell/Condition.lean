import LintHost.Shell.World
import LintHost.Shell.Arithmetic

/-!
# Conditions

The command `test`, also written with brackets: an expression over texts, numbers and files,
given as arguments. With three or four arguments the ones in the middle decide how they are
read, so that a text may look like an operator.

The expressions are read with the current argument at the head of a list.
-/

namespace LintHost.Shell.Condition

/-! ### Symbols -/

/-- What an argument is in a condition. -/
inductive Symbol where
  | operand
  | unary (letter : Char)
  | binary (name : String)
  | and
  | or
  | not
  | opening
  | closing
  | ending
deriving DecidableEq, Inhabited

/-- The operators before one operand, by their letters. -/
def unaryLetters : List Char :=
  "rwxefdcbpugkstznhOGLS".toList

/-- The operators between two operands. -/
def binaryNames : List String :=
  ["=", "!=", "<", ">", "-eq", "-ne", "-gt", "-ge", "-lt", "-le", "-nt", "-ot", "-ef"]

/-- The operator that an argument is. -/
def operator? (argument : Raw) : Option Symbol :=
  if binaryNames.contains argument then some (.binary argument)
  else match argument with
    | "!" => some .not
    | "-a" => some .and
    | "-o" => some .or
    | "(" => some .opening
    | ")" => some .closing
    | argument =>
      match argument.toList with
      | ['-', letter] => if unaryLetters.contains letter then some (.unary letter) else none
      | _ => none

/-- Whether an operator between two operands comes next, after which something follows. -/
def isFollowedByBinary : List Raw → Bool
  | [] => true
  | [_] => false
  | next :: _ :: _ =>
    match operator? next with
    | some (.binary _) => true
    | _ => false

/-- What the argument at the head is. -/
def symbolOf : List Raw → Symbol
  | [] => .ending
  | argument :: rest =>
    match operator? argument with
    | some (.unary letter) => if isFollowedByBinary rest then .operand else .unary letter
    | some .opening => if rest.isEmpty then .operand else .opening
    | some symbol => symbol
    | none => .operand

/-! ### Evaluation -/

/-- What conditions ask about files. -/
structure Surroundings where
  world : World
  directory : Location

/-- The number that an operand has to be. -/
def number (text : Raw) : Except Raw Int :=
  let isBlankText := text.toList.all isSpace
  let (sign, body) : Int × List Char := match text.toList.dropWhile isSpace with
    | '-' :: body => (-1, body)
    | '+' :: body => (1, body)
    | body => (1, body)
  let digits := body.takeWhile Char.isDigit
  let n := sign * Nat.ofDigitChars 10 digits 0
  if isBlankText ∨ digits.isEmpty ∨ ¬ (body.drop digits.length).all isSpace ∨
      n < -greatest64 - 1 ∨ greatest64 < n then
    .error ("Illegal number: " ++ text)
  else .ok n

/-- Whether a condition of one operand is true. -/
def holdsFor (s : Surroundings) (letter : Char) (operand : Raw) : Except Raw Bool := do
  let entry := s.world.look s.directory ⟨Raw.toText operand⟩
  let device := World.device? ⟨Raw.toText operand⟩
  let isThere := entry.toBool || device.isSome
  match letter with
  | 'z' => return operand.isEmpty
  | 'n' => return !operand.isEmpty
  | 't' =>
    let _ ← number operand
    return false
  | 'e' | 'r' | 'w' | 'O' | 'G' => return isThere
  | 'f' =>
    return match entry with
      | .ok (.file _) => true
      | _ => false
  | 'd' | 'x' =>
    return match entry with
      | .ok .directory => true
      | _ => false
  | 's' =>
    return match entry with
      | .ok .directory => true
      | .ok (.file content) => !content.bytes.isEmpty
      | .error _ => false
  | 'c' => return device.isSome
  | _ => return false

/-- Whether a condition of two operands is true. -/
def holdsBetween (s : Surroundings) (name : String) (left right : Raw) : Except Raw Bool := do
  let compare (test : Int → Int → Bool) : Except Raw Bool :=
    return test (← number left) (← number right)
  match name with
  | "=" => return left == right
  | "!=" => return left != right
  | "<" => return left < right
  | ">" => return right < left
  | "-eq" => compare fun a b => a == b
  | "-ne" => compare fun a b => a != b
  | "-gt" => compare fun a b => b < a
  | "-ge" => compare fun a b => b ≤ a
  | "-lt" => compare fun a b => a < b
  | "-le" => compare fun a b => a ≤ b
  | "-ef" =>
    let place (text : Raw) : Option Location :=
      let files := { s.world.files with current := s.directory }
      match files.locate ⟨Raw.toText text⟩ with
      | .ok place => if (files.entryAt? place).isSome then some place else none
      | .error _ => none
    return (place left).isSome && place left == place right
  | _ => return false

/-- A reader of conditions: the arguments from the current one on. -/
abbrev Reader := StateT (List Raw) (Except Raw)

/-- What stands so far after the current argument. -/
def peek (distance : Nat) : Reader Symbol := do
  return symbolOf ((← get).drop distance)

/-- Passes over arguments; gives what comes then. -/
def pass (distance : Nat) : Reader Symbol := do
  modify (List.drop distance)
  peek 0

mutual

/-- Conditions of which one has to be true, from a current argument on that is known. -/
def disjunction (s : Surroundings) : Nat → Symbol → Reader Bool
  | 0, _ => return false
  | fuel + 1, symbol => do
    let first ← conjunction s fuel symbol
    if (← peek 1) = .or then
      let rest ← disjunction s fuel (← pass 2)
      return first || rest
    else return first

/-- Conditions that all have to be true. -/
def conjunction (s : Surroundings) : Nat → Symbol → Reader Bool
  | 0, _ => return false
  | fuel + 1, symbol => do
    let first ← negation s fuel symbol
    if (← peek 1) = .and then
      let rest ← conjunction s fuel (← pass 2)
      return first && rest
    else return first

/-- A condition that may be negated. -/
def negation (s : Surroundings) : Nat → Symbol → Reader Bool
  | 0, _ => return false
  | fuel + 1, .not => do
    let next ← peek 1
    if next ≠ .ending then modify (List.drop 1)
    return !(← negation s fuel next)
  | fuel + 1, symbol => primary s fuel symbol

/-- A condition without others in it, or one in parentheses. -/
def primary (s : Surroundings) : Nat → Symbol → Reader Bool
  | 0, _ => return false
  | fuel + 1, symbol => do
    match symbol with
    | .ending => return false
    | .opening =>
      let next ← pass 1
      if next = .closing then return false
      let result ← disjunction s fuel next
      if (← pass 1) = .closing then return result
      else throw "closing paren expected"
    | .unary letter =>
      modify (List.drop 1)
      match ← get with
      | [] => throw (String.ofList ['-', letter] ++ ": argument expected")
      | operand :: _ => holdsFor s letter operand
    | _ =>
      let left := (← get).headD ""
      match ← peek 1 with
      | .binary name =>
        modify (List.drop 2)
        match ← get with
        | [] => throw (name ++ ": argument expected")
        | right :: _ => holdsBetween s name left right
      | _ => return !left.isEmpty

end

/-- Whether arguments are a condition that is true, from the symbol that the first one is
taken for. -/
def evaluateAs (s : Surroundings) (symbol : Symbol) (arguments : List Raw) :
    Except Raw Bool := do
  let (result, rest) ← (disjunction s (8 * (arguments.length + 2)) symbol).run arguments
  match rest with
  | head :: _ :: _ => throw (head ++ ": unexpected operator")
  | _ => return result

/-- Whether arguments are a condition that is true. No arguments are not. -/
def evaluate (s : Surroundings) : List Raw → Except Raw Bool
  | [] => .ok false
  | arguments@(first :: rest) =>
    let isBinary : Bool := match arguments with
      | [_, name, _] => binaryNames.contains name
      | _ => false
    if isBinary then evaluateAs s .operand arguments
    else if arguments.length = 3 ∨ arguments.length = 4 then
      if first = "(" ∧ arguments.getLast? = some ")" then
        let inner := rest.dropLast
        evaluateAs s (symbolOf inner) inner
      else if first = "!" then (evaluate s rest).map (! ·)
      else evaluateAs s (symbolOf arguments) arguments
    else evaluateAs s (symbolOf arguments) arguments

end LintHost.Shell.Condition
