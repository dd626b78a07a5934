import LintHost.Shell.Grammar

/-!
# Arithmetic of the shell

Expressions over whole numbers of 64 bits with a sign, whose results wrap around. They are
read into an `Expression`, which `Expression.value` evaluates: what the value of a variable is
and what becomes of an assignment is left to the caller.
-/

namespace LintHost.Shell

/-- The number of 64 bits with a sign that a number becomes. -/
def wrap64 (n : Int) : Int :=
  Int.bmod n 0x10000000000000000

/-! ### Expressions -/

/-- An operator between two numbers. -/
inductive BinaryOperator where
  | times | over | modulo | plus | minus | shiftLeft | shiftRight
  | less | lessEqual | greater | greaterEqual | equal | unequal
  | bitAnd | bitXor | bitOr
deriving DecidableEq, Inhabited

/-- An arithmetic expression. -/
inductive Expression where
  | number (value : Int)
  | variable (name : String)
  | negative (e : Expression)
  | not (e : Expression)
  | complement (e : Expression)
  | binary (operator : BinaryOperator) (left right : Expression)
  | and (left right : Expression)
  | or (left right : Expression)
  | conditional (test success failure : Expression)
  /-- A variable gets a value, combined with its own if there is an operator. -/
  | assign (name : String) (operator : Option BinaryOperator) (value : Expression)
deriving Inhabited

/-- Why an expression has no value. -/
inductive ArithmeticFault where
  | expectingPrimary
  | expectingParenthesis
  | expectingColon
  | expectingEnd
  | divisionByZero
deriving DecidableEq, Inhabited

/-- The wording of a fault. -/
def ArithmeticFault.message : ArithmeticFault → String
  | .expectingPrimary => "expecting primary"
  | .expectingParenthesis => "expecting ')'"
  | .expectingColon => "expecting ':'"
  | .expectingEnd => "expecting EOF"
  | .divisionByZero => "division by zero"

namespace BinaryOperator

/-- How loosely an operator binds. -/
def level : BinaryOperator → Nat
  | .times | .over | .modulo => 0
  | .plus | .minus => 1
  | .shiftLeft | .shiftRight => 2
  | .less | .lessEqual | .greater | .greaterEqual => 3
  | .equal | .unequal => 4
  | .bitAnd => 5
  | .bitXor => 6
  | .bitOr => 7

/-- The number of a truth value. -/
def ofBool (b : Bool) : Int :=
  if b then 1 else 0

/-- The bits of a number of 64 bits as a natural number. -/
def bits (n : Int) : Nat :=
  (n % 0x10000000000000000).toNat

/-- The result of an operator. -/
def apply (operator : BinaryOperator) (a b : Int) : Except ArithmeticFault Int :=
  let shift := bits b % 64
  match operator with
  | .times => .ok (wrap64 (a * b))
  | .over => if b = 0 then .error .divisionByZero else .ok (wrap64 (Int.tdiv a b))
  | .modulo => if b = 0 then .error .divisionByZero else .ok (wrap64 (Int.tmod a b))
  | .plus => .ok (wrap64 (a + b))
  | .minus => .ok (wrap64 (a - b))
  | .shiftLeft => .ok (wrap64 (a * Nat.pow 2 shift))
  | .shiftRight => .ok (Int.fdiv a (Nat.pow 2 shift))
  | .less => .ok (ofBool (a < b))
  | .lessEqual => .ok (ofBool (a ≤ b))
  | .greater => .ok (ofBool (b < a))
  | .greaterEqual => .ok (ofBool (b ≤ a))
  | .equal => .ok (ofBool (a == b))
  | .unequal => .ok (ofBool (a != b))
  | .bitAnd => .ok (wrap64 (Nat.land (bits a) (bits b)))
  | .bitXor => .ok (wrap64 (Nat.xor (bits a) (bits b)))
  | .bitOr => .ok (wrap64 (Nat.lor (bits a) (bits b)))

/-- The operators by how they are written, longer ones first. -/
def spellings : List (String × BinaryOperator) :=
  [("<<", .shiftLeft), (">>", .shiftRight), ("<=", .lessEqual), (">=", .greaterEqual),
    ("==", .equal), ("!=", .unequal), ("*", .times), ("/", .over), ("%", .modulo),
    ("+", .plus), ("-", .minus), ("<", .less), (">", .greater), ("&", .bitAnd),
    ("^", .bitXor), ("|", .bitOr)]

end BinaryOperator

/-! ### Numbers -/

/-- The digit that a character is. -/
def digitValue? (c : Char) : Option Nat :=
  if c.isDigit then some (c.toNat - '0'.toNat)
  else if 'a' ≤ c ∧ c ≤ 'z' then some (c.toNat - 'a'.toNat + 10)
  else if 'A' ≤ c ∧ c ≤ 'Z' then some (c.toNat - 'A'.toNat + 10)
  else none

/-- The digits of a base at the start of a text. -/
def digitsOf (base : Nat) (cs : List Char) : List Nat :=
  (cs.map digitValue?).takeWhile (fun d => d.any (· < base)) |>.map (·.getD 0)

/-- The number at the start of a text, and what follows it: hexadecimal after `0x`, octal
after `0`, and else decimal. -/
def readNatural? (cs : List Char) : Option (Nat × List Char) :=
  let take (base : Nat) (cs : List Char) : Option (Nat × List Char) :=
    match digitsOf base cs with
    | [] => none
    | digits => some (digits.foldl (fun n d => n * base + d) 0, cs.drop digits.length)
  match cs with
  | '0' :: x :: rest =>
    if x = 'x' ∨ x = 'X' then (take 16 rest).or (some (0, x :: rest)) else take 8 cs
  | cs => take 10 cs

/-- A blank inside an expression or around a number. -/
def isSpace (c : Char) : Bool :=
  c == ' ' || ('\t' ≤ c && c ≤ '\x0d')

/-- The number with a sign at the start of a text, after blanks, and what follows it. -/
def readInteger? (cs : List Char) : Option (Int × List Char) :=
  match cs.dropWhile isSpace with
  | '-' :: rest => (readNatural? rest).map fun (n, rest) => (-(n : Int), rest)
  | '+' :: rest => (readNatural? rest).map fun (n, rest) => ((n : Int), rest)
  | rest => (readNatural? rest).map fun (n, rest) => ((n : Int), rest)

/-- The greatest number of 64 bits with a sign. -/
def greatest64 : Int := 0x7fffffffffffffff

/-- The number with a sign that a whole text is, with blanks around it. An empty text is
zero. -/
def integer? (text : String) : Option Int :=
  if text.toList.all isSpace then some 0
  else match readInteger? text.toList with
    | some (n, rest) =>
      if rest.all isSpace ∧ -greatest64 - 1 ≤ n ∧ n ≤ greatest64 then some n else none
    | none => none

/-! ### Reading expressions -/

namespace Expression

/-- The tokens of expressions. -/
inductive Symbol where
  | number (value : Int)
  | name (text : String)
  | operator (text : String)
  | bad
deriving DecidableEq, Inhabited

/-- The operators and marks, longer ones first. -/
def marks : List String :=
  ["<<=", ">>=", "&&", "||", "<<", ">>", "<=", ">=", "==", "!=", "*=", "/=", "%=", "+=", "-=",
    "&=", "^=", "|=", "*", "/", "%", "+", "-", "<", ">", "&", "^", "|", "=", "!", "~", "?", ":",
    "(", ")"]

/-- The tokens of an expression. The length of the text is fuel enough. -/
def symbols : Nat → List Char → List Symbol
  | 0, _ | _, [] => []
  | fuel + 1, c :: rest =>
    if isSpace c then symbols fuel rest
    else if c.isDigit then
      match readNatural? (c :: rest) with
      | some (n, rest) => .number (min n greatest64) :: symbols fuel rest
      | none => [.bad]
    else if isNameStart c then
      let name := (c :: rest).takeWhile isNameChar
      .name (String.ofList name) :: symbols fuel ((c :: rest).drop name.length)
    else match marks.find? fun m => m.toList.isPrefixOf (c :: rest) with
      | some m => .operator m :: symbols fuel ((c :: rest).drop m.length)
      | none => [.bad]

/-- A reader of tokens. -/
abbrev Reader (α : Type) := StateT (List Symbol) (Except ArithmeticFault) α

/-- Passes over an operator if it comes next, and tells whether it did. -/
def skipIf (text : String) : Reader Bool := do
  match ← get with
  | .operator other :: rest =>
    if other = text then set rest; return true
    else return false
  | _ => return false

/-- The operator that comes next, if it binds at least so tightly. -/
def nextOperator? (level : Nat) : Reader (Option BinaryOperator) := do
  match ← get with
  | .operator text :: _ =>
    return (BinaryOperator.spellings.lookup text).filter fun o => o.level ≤ level
  | _ => return none

/-- The operators that assign, and what they combine with. -/
def assignments : List (String × Option BinaryOperator) :=
  ("=", none) :: ([BinaryOperator.times, .over, .modulo, .plus, .minus, .shiftLeft,
    .shiftRight, .bitAnd, .bitXor, .bitOr].filterMap fun o =>
      (BinaryOperator.spellings.find? fun s => s.2 = o).map fun s => (s.1 ++ "=", some o))

mutual

/-- An assignment, or an expression without one. -/
def assignment : Nat → Reader Expression
  | 0 => throw .expectingPrimary
  | fuel + 1 => do
    match ← get with
    | .name name :: .operator text :: rest =>
      match assignments.lookup text with
      | some operator =>
        set rest
        return .assign name operator (← assignment fuel)
      | none => choice fuel
    | _ => choice fuel

/-- A choice between two expressions, or an expression without one. -/
def choice : Nat → Reader Expression
  | 0 => throw .expectingPrimary
  | fuel + 1 => do
    let test ← disjunction fuel
    if ← skipIf "?" then
      let success ← assignment fuel
      if ← skipIf ":" then return .conditional test success (← choice fuel)
      else throw .expectingColon
    else return test

/-- Expressions of which one has to be true. -/
def disjunction : Nat → Reader Expression
  | 0 => throw .expectingPrimary
  | fuel + 1 => do
    let left ← conjunction fuel
    if ← skipIf "||" then return .or left (← disjunction fuel)
    else return left

/-- Expressions that all have to be true. -/
def conjunction : Nat → Reader Expression
  | 0 => throw .expectingPrimary
  | fuel + 1 => do
    let left ← binaries fuel 7
    if ← skipIf "&&" then return .and left (← conjunction fuel)
    else return left

/-- Expressions with operators of at most one level between them. -/
def binaries : Nat → Nat → Reader Expression
  | 0, _ => throw .expectingPrimary
  | fuel + 1, level => do
    let left ← match level with
      | 0 => primary fuel
      | level + 1 => binaries fuel level
    binariesAfter fuel level left

/-- The operators of a level after an expression, with what they apply to. -/
def binariesAfter : Nat → Nat → Expression → Reader Expression
  | 0, _, left => return left
  | fuel + 1, level, left => do
    match ← nextOperator? level with
    | some operator =>
      modify (List.drop 1)
      let right ← match level with
        | 0 => primary fuel
        | level + 1 => binaries fuel level
      binariesAfter fuel level (.binary operator left right)
    | none => return left

/-- A number, a variable, or an expression in parentheses or after a sign. -/
def primary : Nat → Reader Expression
  | 0 => throw .expectingPrimary
  | fuel + 1 => do
    match ← get with
    | .number value :: rest => set rest; return .number value
    | .name name :: rest => set rest; return .variable name
    | .operator "(" :: rest =>
      set rest
      let e ← assignment fuel
      if ← skipIf ")" then return e else throw .expectingParenthesis
    | .operator "+" :: rest => set rest; primary fuel
    | .operator "-" :: rest => set rest; return .negative (← primary fuel)
    | .operator "!" :: rest => set rest; return .not (← primary fuel)
    | .operator "~" :: rest => set rest; return .complement (← primary fuel)
    | _ => throw .expectingPrimary

end

/-- The expression that a text is. -/
def read (text : String) : Except ArithmeticFault Expression := do
  let symbols := symbols (text.length + 1) text.toList
  let (e, rest) ← (assignment (12 * (symbols.length + 2))).run symbols
  if rest.isEmpty then return e else throw .expectingEnd

/-! ### Values -/

/-- The value of an expression, where variables are looked up and assigned as is said. -/
def value {m : Type → Type} [Monad m] (lookup : String → m Int) (store : String → Int → m Unit)
    (fail : ArithmeticFault → m Int) : Expression → m Int
  | .number n => return n
  | .variable name => lookup name
  | .negative e => return wrap64 (-(← value lookup store fail e))
  | .not e => return BinaryOperator.ofBool ((← value lookup store fail e) == 0)
  | .complement e => return -(← value lookup store fail e) - 1
  | .binary operator left right => do
    let a ← value lookup store fail left
    let b ← value lookup store fail right
    match operator.apply a b with
    | .ok n => return n
    | .error e => fail e
  | .and left right => do
    if (← value lookup store fail left) = 0 then return 0
    return BinaryOperator.ofBool ((← value lookup store fail right) != 0)
  | .or left right => do
    if (← value lookup store fail left) ≠ 0 then return 1
    return BinaryOperator.ofBool ((← value lookup store fail right) != 0)
  | .conditional test success failure => do
    if (← value lookup store fail test) ≠ 0 then value lookup store fail success
    else value lookup store fail failure
  | .assign name operator e => do
    let right ← value lookup store fail e
    let result ← match operator with
      | none => pure right
      | some operator => do
        let old ← lookup name
        match operator.apply old right with
        | .ok n => pure n
        | .error e => fail e
    store name result
    return result

end Expression

end LintHost.Shell
