/-!
# Patterns of names

A pattern in which `?` stands for any character, `*` for any number of them, and a list
between brackets for one of its characters. A quoted character of a pattern stands for itself,
so a pattern is a list of characters each with whether it is quoted.
-/

namespace LintHost.Shell

/-- A pattern as it is written: its characters, and whether each is quoted. -/
abbrev Pattern := List (Char × Bool)

namespace Pattern

/-! ### Items -/

/-- What one place of a pattern stands for. -/
inductive Item where
  | one (accepts : Char → Bool)
  | many

/-- The classes of characters that can be named between brackets. -/
def classes : List (String × (Char → Bool)) :=
  let isGraph (c : Char) : Bool := '!' ≤ c && c ≤ '~'
  [("alnum", Char.isAlphanum), ("alpha", Char.isAlpha), ("digit", Char.isDigit),
    ("lower", Char.isLower), ("upper", Char.isUpper),
    ("blank", fun c => c == ' ' || c == '\t'),
    ("space", fun c => c == ' ' || ('\t' ≤ c && c ≤ '\x0d')),
    ("cntrl", fun c => c < ' ' || c == '\x7f'),
    ("graph", isGraph), ("print", fun c => c == ' ' || isGraph c),
    ("punct", fun c => isGraph c && !c.isAlphanum),
    ("xdigit", fun c => c.isDigit || ('a' ≤ c && c ≤ 'f') || ('A' ≤ c && c ≤ 'F'))]

/-- The class named at the start of a list between brackets, and what follows it. -/
def class? : Pattern → Option ((Char → Bool) × Pattern)
  | ('[', false) :: (':', _) :: rest =>
    let name := rest.takeWhile fun p => p.1.isAlpha
    match rest.drop name.length with
    | (':', _) :: (']', _) :: rest =>
      (classes.lookup (String.ofList (name.map Prod.fst))).map fun accepts => (accepts, rest)
    | _ => none
  | _ => none

/-- The characters between brackets, and what follows them. A closing bracket at the start
stands for itself. The length of the pattern is fuel enough. -/
def members? : Nat → (isFirst : Bool) → Pattern → Option ((Char → Bool) × Pattern)
  | 0, _, _ | _, _, [] => none
  | fuel + 1, isFirst, (c, quoted) :: rest =>
    let orElse (accepts : Char → Bool) (rest : Pattern) : Option ((Char → Bool) × Pattern) :=
      (members? fuel false rest).map fun (more, rest) => (fun c => accepts c || more c, rest)
    if c = ']' ∧ ¬ quoted ∧ ¬ isFirst then some (fun _ => false, rest)
    else match class? ((c, quoted) :: rest) with
      | some (accepts, rest) => orElse accepts rest
      | none =>
        match c, quoted, rest with
        | '\\', false, (d, _) :: rest => orElse (· == d) rest
        | low, _, ('-', false) :: (high, q) :: rest =>
          if high = ']' ∧ ¬ q then orElse (· == low) (('-', false) :: (high, q) :: rest)
          else orElse (fun c => low ≤ c && c ≤ high) rest
        | c, _, rest => orElse (· == c) rest

/-- The list between brackets after an opening one, and what follows it. -/
def bracket? (rest : Pattern) : Option ((Char → Bool) × Pattern) :=
  match rest with
  | ('!', false) :: more | ('^', false) :: more =>
    (members? (more.length + 1) true more).map fun (accepts, rest) =>
      (fun c => !accepts c, rest)
  | _ => members? (rest.length + 1) true rest

/-- The items of a pattern. The length of the pattern is fuel enough. -/
def itemsFrom : Nat → Pattern → List Item
  | 0, _ | _, [] => []
  | fuel + 1, ('*', false) :: rest => .many :: itemsFrom fuel rest
  | fuel + 1, ('?', false) :: rest => .one (fun _ => true) :: itemsFrom fuel rest
  | fuel + 1, ('\\', false) :: (c, _) :: rest => .one (· == c) :: itemsFrom fuel rest
  | fuel + 1, ('[', false) :: rest =>
    match bracket? rest with
    | some (accepts, rest) => .one accepts :: itemsFrom fuel rest
    | none => .one (· == '[') :: itemsFrom fuel rest
  | fuel + 1, (c, _) :: rest => .one (· == c) :: itemsFrom fuel rest

/-- The items of a pattern. -/
def items (p : Pattern) : List Item :=
  itemsFrom (p.length + 1) p

/-! ### Matches -/

/-- A text and all its ends. -/
def ends : List Char → List (List Char)
  | [] => [[]]
  | c :: rest => (c :: rest) :: ends rest

/-- Whether items match a whole text. -/
def itemsMatch : List Item → List Char → Bool
  | [], cs => cs.isEmpty
  | .many :: items, cs => (ends cs).any (itemsMatch items)
  | .one accepts :: items, cs =>
    match cs with
    | [] => false
    | c :: rest => accepts c && itemsMatch items rest

/-- Whether a pattern matches a whole text. -/
def isMatch (p : Pattern) (cs : List Char) : Bool :=
  itemsMatch p.items cs

/-- Whether something in the pattern does not stand for itself. -/
def hasWildcard (p : Pattern) : Bool :=
  p.any fun (c, quoted) => !quoted && (c == '*' || c == '?' || c == '[')

/-- The characters of a pattern as they are written. -/
def written (p : Pattern) : List Char :=
  p.map Prod.fst

/-! ### Taking parts away -/

/-- The lengths up to some length, longest or shortest first. -/
def lengths (longest : Bool) (length : Nat) : List Nat :=
  if longest then (List.range (length + 1)).reverse else List.range (length + 1)

/-- Whether the pattern matches a text up to the first NUL in it, where one ends. -/
def isMatchUpToEnd (p : Pattern) (cs : List Char) : Bool :=
  p.isMatch (cs.takeWhile (· ≠ '\x00'))

/-- A text without the part at its start that the pattern matches. -/
def trimFront (p : Pattern) (longest : Bool) (cs : List Char) : List Char :=
  match (lengths longest cs.length).find? fun n => p.isMatchUpToEnd (cs.take n) with
  | some n => cs.drop n
  | none => cs

/-- A text without the part at its end that the pattern matches. -/
def trimBack (p : Pattern) (longest : Bool) (cs : List Char) : List Char :=
  match (lengths longest cs.length).find? fun n =>
      p.isMatchUpToEnd (cs.drop (cs.length - n)) with
  | some n => cs.take (cs.length - n)
  | none => cs

end Pattern

end LintHost.Shell
