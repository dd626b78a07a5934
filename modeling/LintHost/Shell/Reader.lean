import LintHost.Shell.Grammar

/-!
# Reading scripts

`Reading.command?` reads the next command of a script, up to the end of its line: a command
is run before the next one is read, so a fault further down does no harm to it.

What the characters mean depends on where they stand. Tokens are cut off one at a time, and
each reader says whether ends of lines are skipped before the token and whether a plain word
may be a keyword. Inside a word a `Scope` says where the pieces end and whether they are
quoted. A text in the script that serves as input starts on the line after the command; it is
read when the end of the line is, and found by its number.

All readers call each other, with fuel that the length of the script bounds.
-/

namespace LintHost.Shell

/-! ### Tokens -/

/-- What a script is cut into. -/
inductive Token where
  | endOfFile
  | newline
  | operator (text : String)
  | keyword (text : String)
  | word (pieces : Word)
  | redirection (stream : Nat) (operator : String)
deriving Inhabited

namespace Token

/-- A token in a message. -/
def name : Token → String
  | .endOfFile => "end of file"
  | .newline => "newline"
  | .operator text | .keyword text => "\"" ++ text ++ "\""
  | .word _ => "word"
  | .redirection .. => "redirection"

/-- The words that have a meaning of their own where a command can start. -/
def keywords : List String :=
  ["!", "case", "do", "done", "elif", "else", "esac", "fi", "for", "if", "in", "then", "until",
    "while", "\x7b", "\x7d"]

/-- A word as a keyword, if it is one. -/
def asKeyword : Token → Token
  | .word pieces =>
    match Word.literal? pieces with
    | some text => if keywords.contains text then .keyword text else .word pieces
    | none => .word pieces
  | token => token

/-- Whether a list of commands can end before the token. -/
def endsList : Token → Bool
  | .endOfFile => true
  | .operator text => text == ")" || text == ";;"
  | .keyword text =>
    ["do", "done", "elif", "else", "esac", "fi", "then", "\x7d"].contains text
  | _ => false

end Token

/-! ### The state of a reader -/

/-- A text in the script that is still to be read: its number, the line that ends it, whether
tabs at the start of its lines are dropped, and whether it is to be expanded. -/
structure PendingDocument where
  number : Nat
  ending : String
  dropsTabs : Bool
  expands : Bool
deriving Inhabited

/-- How far the reading of a script has come. -/
structure ReaderState where
  rest : List Char
  line : Nat := 1
  /-- A token that has been read and is read again. -/
  pushed : Option Token := none
  pending : List PendingDocument := []
  documents : List (Nat × Word) := []
  /-- The number of the next text in the script. -/
  nextDocument : Nat := 0
deriving Inhabited

/-- A reader, which may find a fault on a line. -/
abbrev Reading := StateT ReaderState (Except (Nat × Fault))

namespace Reading

/-- Stops at a fault on the line up to which has been read. -/
def fail {α : Type} (fault : Fault) : Reading α := do
  throw ((← get).line, fault)

/-! ### Characters -/

/-- A text without the joined lines at its start, and how many of them there were. -/
def dropJoins : List Char → List Char × Nat
  | '\\' :: '\n' :: rest =>
    let (rest, count) := dropJoins rest
    (rest, count + 1)
  | cs => (cs, 0)

/-- The next character; lines that are joined by a backslash are one. -/
def peek : Reading (Option Char) :=
  modifyGet fun s =>
    let (rest, count) := dropJoins s.rest
    (rest.head?, { s with rest, line := s.line + count })

/-- Takes the next character as it is. -/
def takeRaw : Reading (Option Char) :=
  modifyGet fun s =>
    match s.rest with
    | [] => (none, s)
    | c :: rest => (some c, { s with rest, line := if c = '\n' then s.line + 1 else s.line })

/-- Passes over the next character. -/
def skip : Reading Unit := do
  let _ ← peek
  let _ ← takeRaw

/-- Passes over the next character if it is the given one, and tells whether it was. -/
def skipIf (c : Char) : Reading Bool := do
  if (← peek) = some c then skip; return true
  else return false

/-- Takes characters as long as they fulfil a condition, of which there are at most so many. -/
def takeWhile (p : Char → Bool) : Nat → Reading (List Char)
  | 0 => return []
  | fuel + 1 => do
    match ← peek with
    | some c =>
      if p c then
        skip
        return c :: (← takeWhile p fuel)
      else return []
    | none => return []

/-- Takes characters as they are up to a single quote. -/
def takeQuoted : Nat → Reading (List Char)
  | 0 => fail .unterminatedQuote
  | fuel + 1 => do
    match ← takeRaw with
    | none => fail .unterminatedQuote
    | some c => if c = '\'' then return [] else return c :: (← takeQuoted fuel)

/-- Takes the characters of old-fashioned substituted commands, up to the closing mark. -/
def takeBackquoted (quoted : Bool) : Nat → Reading (List Char)
  | 0 => fail .endInBackquotes
  | fuel + 1 => do
    match ← peek with
    | none => fail .endInBackquotes
    | some '\x60' => skip; return []
    | some '\\' =>
      skip
      match ← takeRaw with
      | none => fail .endInBackquotes
      | some c =>
        let rest ← takeBackquoted quoted fuel
        if ['\\', '\x60', '$'].contains c || quoted && c == '"' then return c :: rest
        else return '\\' :: c :: rest
    | some c =>
      skip
      return c :: (← takeBackquoted quoted fuel)

/-! ### Pieces -/

/-- Where pieces end. -/
inductive Ending where
  /-- Before a blank or an operator. -/
  | blank
  | quote
  /-- At the closing brace of a parameter. -/
  | brace
  /-- At two closing parentheses. -/
  | parentheses
  | endOfText
deriving DecidableEq, Inhabited

/-- Where pieces end, whether they are quoted, and whether they are in a text in the script. -/
structure Scope where
  ending : Ending
  quoted : Bool
  inText : Bool := false
deriving DecidableEq, Inhabited

/-- A character that ends a word unless it is quoted. -/
def endsWord (c : Char) : Bool :=
  [' ', '\t', '\n', ';', '&', '|', '<', '>', '(', ')'].contains c

/-- What is wrong if a script ends before the pieces do. -/
def Scope.faultAtEnd? (scope : Scope) : Option Fault :=
  match scope.ending with
  | .blank | .endOfText => none
  | .quote => some .unterminatedQuote
  | .brace =>
    some (if scope.quoted ∧ ¬ scope.inText then .unterminatedQuote else .missingBrace)
  | .parentheses => some .missingParentheses

/-- Whether a backslash is dropped before a character. -/
def Scope.escapes (scope : Scope) (c : Char) : Bool :=
  !scope.quoted || ['\\', '\x60', '$'].contains c ||
    (c == '"' && scope.ending != .endOfText) || (c == '\x7d' && scope.ending == .brace)

/-- Pieces with a text before them. -/
def addText (text : String) (quoted : Bool) : Word → Word
  | .text more q :: rest =>
    if q = quoted then .text (text ++ more) q :: rest
    else .text text quoted :: .text more q :: rest
  | rest => .text text quoted :: rest

/-- Pieces between quotes, with their mark. All arguments between quotes may be none, so they
have no mark. -/
def markQuotes : Word → Word
  | [.parameter "@" .plain true] => [.parameter "@" .plain true]
  | pieces => .mark :: pieces

/-! ### Texts in the script -/

/-- The lines of a text with their ends, up to the one that ends the text, and what follows. -/
def documentLines (d : PendingDocument) : Nat → List Char → List (List Char) × List Char
  | 0, cs => ([], cs)
  | _, [] => ([], [])
  | fuel + 1, cs =>
    let line := cs.takeWhile (· ≠ '\n')
    let rest := cs.drop (line.length + 1)
    let ending := if line.length < cs.length then ['\n'] else []
    let line := if d.dropsTabs then line.dropWhile (· = '\t') else line
    if line = d.ending.toList then ([], rest)
    else
      let (lines, rest) := documentLines d fuel rest
      ((line ++ ending) :: lines, rest)

/-- An assignment: the name before an equals sign that is not quoted, and the value. -/
def assignment? : Word → Option (String × Word)
  | .text text false :: rest =>
    let name := text.toList.takeWhile (· ≠ '=')
    let value := text.toList.drop name.length
    if value ≠ [] ∧ isName (String.ofList name) then
      let value := String.ofList (value.drop 1)
      some (String.ofList name, if value = "" then rest else .text value false :: rest)
    else none
  | _ => none

/-! ### Tokens of a script -/

/-- Gives a token back, to be read again. -/
def pushBack (token : Token) : Reading Unit :=
  modify fun s => { s with pushed := some token }

/-- The operator of a redirection that starts with the given character. -/
def redirectionOperator (c : Char) : Reading String := do
  skip
  if c = '>' then
    if ← skipIf '>' then return ">>"
    else if ← skipIf '|' then return ">|"
    else if ← skipIf '&' then return ">&"
    else return ">"
  else if ← skipIf '<' then
    if ← skipIf '-' then return "<<-" else return "<<"
  else if ← skipIf '&' then return "<&"
  else if ← skipIf '>' then return "<>"
  else return "<"

/-- The operators, where one may be doubled. -/
def operatorToken (c : Char) : Reading Token := do
  skip
  let mayDouble := c = '&' ∨ c = '|' ∨ c = ';'
  let isDouble ← if mayDouble then skipIf c else pure false
  return .operator (String.ofList (if isDouble then [c, c] else [c]))

/-- The fault of a token that cannot stand where it does. -/
def failOn {α : Type} (token : Token) : Reading α :=
  fail (.unexpected token.name)

/-- The fault of a token in place of another one. -/
def failFor {α : Type} (token expected : Token) : Reading α :=
  fail (.unexpectedFor token.name expected.name)

mutual

/-- The pieces up to their end. The depth counts open parentheses in an expression, and is 1
between quotes inside a brace that is quoted itself. -/
def pieces : Nat → Scope → (depth : Nat) → Reading Word
  | 0, _, _ => fail .unterminatedQuote
  | fuel + 1, scope, depth => do
    let plain (c : Char) (depth : Nat) : Reading Word := do
      skip
      return addText (String.singleton c) scope.quoted (← pieces fuel scope depth)
    match ← peek with
    | none =>
      match scope.faultAtEnd? with
      | some fault => fail fault
      | none => return []
    | some c =>
      if scope.ending = .blank ∧ endsWord c then return []
      else if scope.ending = .quote ∧ c = '"' then skip; return []
      else if scope.ending = .brace ∧ c = '\x7d' ∧ depth = 0 then skip; return []
      else if scope.ending = .parentheses ∧ c = '(' then plain c (depth + 1)
      else if scope.ending = .parentheses ∧ c = ')' then
        if 0 < depth then plain c (depth - 1)
        else
          skip
          if ← skipIf ')' then return []
          else return addText ")" true (← pieces fuel scope depth)
      else match c with
        | '\\' =>
          skip
          match ← takeRaw with
          | none => return addText "\\" true (← pieces fuel scope depth)
          | some c =>
            let text := if scope.escapes c then [c] else ['\\', c]
            return addText (String.ofList text) true (← pieces fuel scope depth)
        | '\'' =>
          if scope.quoted then plain c depth
          else
            skip
            let text ← takeQuoted ((← get).rest.length + 1)
            return .mark :: addText (String.ofList text) true (← pieces fuel scope depth)
        | '"' =>
          if scope.ending = .endOfText ∨ scope.ending = .parentheses then plain c depth
          else if scope.quoted then
            skip
            return .mark :: (← pieces fuel scope (1 - depth))
          else
            skip
            let inner ← pieces fuel { ending := .quote, quoted := true } 0
            return markQuotes inner ++ (← pieces fuel scope depth)
        | '$' =>
          skip
          let piece ← dollar fuel scope
          let rest ← pieces fuel scope depth
          match piece with
          | .text text quoted => return addText text quoted rest
          | piece => return piece :: rest
        | '\x60' =>
          skip
          let text ← takeBackquoted scope.quoted ((← get).rest.length + 1)
          let after ← get
          set { after with rest := text, line := 1, pushed := none }
          let body ← list fuel false true none
          modify fun s => { s with rest := after.rest, line := after.line, pushed := none }
          return .output body scope.quoted :: (← pieces fuel scope depth)
        | c => plain c depth

/-- The piece after a dollar sign. -/
def dollar : Nat → Scope → Reading Piece
  | 0, _ => return .text "$" false
  | fuel + 1, scope => do
    match ← peek with
    | some '(' =>
      skip
      if ← skipIf '(' then
        return .arithmetic (← pieces fuel { ending := .parentheses, quoted := true } 0) scope.quoted
      else
        let body ← list fuel false true none
        let token ← next fuel false false
        match token with
        | .operator ")" => return .output body scope.quoted
        | token => failFor token (.operator ")")
    | some '\x7b' =>
      skip
      braced fuel scope
    | some c =>
      if isNameStart c then
        let name ← takeWhile isNameChar ((← get).rest.length + 1)
        return .parameter (String.ofList name) .plain scope.quoted
      else if isSpecialParameter c then
        skip
        return .parameter (String.singleton c) .plain scope.quoted
      else return .text "$" scope.quoted
    | none => return .text "$" scope.quoted

/-- A parameter between braces. -/
def braced : Nat → Scope → Reading Piece
  | 0, _ => fail .missingBrace
  | fuel + 1, scope => do
    let length := (← get).rest.length + 1
    let name (c : Char) : Reading (Option String) := do
      if isNameStart c then return some (String.ofList (← takeWhile isNameChar length))
      else if c.isDigit then return some (String.ofList (← takeWhile Char.isDigit length))
      else return none
    match ← peek with
    | none => fail .missingBrace
    | some '#' =>
      skip
      match ← peek with
      | none => fail .missingBrace
      | some c =>
        match ← name c with
        | some name =>
          if ← skipIf '\x7d' then return .parameter name .length scope.quoted
          else unknown fuel scope name false
        | none =>
          let before ← get
          skip
          if c ≠ '\x7d' ∧ isSpecialParameter c ∧ (← skipIf '\x7d') then
            return .parameter (String.singleton c) .length scope.quoted
          else
            set before
            operation fuel scope "#"
    | some c =>
      match ← name c with
      | some name => operation fuel scope name
      | none =>
        if isSpecialParameter c then
          skip
          operation fuel scope (String.singleton c)
        else unknown fuel scope "" (c != '\x7d')

/-- What follows the name of a parameter between braces. -/
def operation : Nat → Scope → String → Reading Piece
  | 0, _, _ => fail .missingBrace
  | fuel + 1, scope, name => do
    let word : Reading Word := pieces fuel { scope with ending := .brace } 0
    let trim (side : TrimEnd) (mark : Char) : Reading Piece := do
      skip
      let longest ← skipIf mark
      let pattern ← pieces fuel { ending := .brace, quoted := false } 0
      return .parameter name (.trim side longest pattern) scope.quoted
    let emptyToo ← skipIf ':'
    match ← peek with
    | some '-' => skip; return .parameter name (.fallback emptyToo (← word)) scope.quoted
    | some '=' => skip; return .parameter name (.assign emptyToo (← word)) scope.quoted
    | some '?' => skip; return .parameter name (.demand emptyToo (← word)) scope.quoted
    | some '+' => skip; return .parameter name (.instead emptyToo (← word)) scope.quoted
    | some '\x7d' =>
      if emptyToo then unknown fuel scope name (name != "#")
      else skip; return .parameter name .plain scope.quoted
    | some '#' => if emptyToo then unknown fuel scope name true else trim .front '#'
    | some '%' => if emptyToo then unknown fuel scope name true else trim .back '%'
    | _ => unknown fuel scope name true

/-- Something between braces that is not known: it is passed over, and counts when it is
run. Its first character may be passed over without regard to what it is. -/
def unknown : Nat → Scope → String → (skipsFirst : Bool) → Reading Piece
  | 0, _, _, _ => fail .missingBrace
  | fuel + 1, scope, name, skipsFirst => do
    if skipsFirst then modify fun s => { s with rest := s.rest.drop 1 }
    let _ ← pieces fuel { scope with ending := .brace } 0
    return .parameter name .bad scope.quoted

/-- The next token without regard to keywords. -/
def token : Nat → Reading Token
  | 0 => return .endOfFile
  | fuel + 1 => do
    match ← modifyGet fun s => (s.pushed, { s with pushed := none }) with
    | some token => return token
    | none =>
      match ← peek with
      | none => return .endOfFile
      | some c =>
        if c = ' ' ∨ c = '\t' then
          skip
          token fuel
        else if c = '#' then
          modify fun s => { s with rest := s.rest.dropWhile (· ≠ '\n') }
          token fuel
        else if c = '\n' then skip; return .newline
        else if c = '<' then return .redirection 0 (← redirectionOperator c)
        else if c = '>' then return .redirection 1 (← redirectionOperator c)
        else if endsWord c then operatorToken c
        else
          let word ← pieces fuel { ending := .blank, quoted := false } 0
          match (Word.literal? word).map String.toList, ← peek with
          | some [d], some c =>
            if d.isDigit ∧ (c = '<' ∨ c = '>') then
              return .redirection (d.toNat - '0'.toNat) (← redirectionOperator c)
            else return .word word
          | _, _ => return .word word

/-- The texts in the script that the commands of the line have announced. -/
def readDocuments : Nat → Reading Unit
  | 0 => return ()
  | fuel + 1 => do
    match ← modifyGet fun s => (s.pending.head?, { s with pending := s.pending.drop 1 }) with
    | none => return ()
    | some d =>
      let before ← get
      let (lines, rest) := documentLines d (before.rest.length + 1) before.rest
      let text := lines.flatten
      let word ←
        if d.expands then
          set { before with rest := text }
          pieces fuel { ending := .endOfText, quoted := true, inText := true } 0
        else pure [.text (String.ofList text) true]
      modify fun s => { s with
        rest, line := before.line + lines.length + 1, pushed := none
        documents := (d.number, word) :: s.documents }
      readDocuments fuel

/-- The next token. Ends of lines may be skipped before it, and a plain word may be a
keyword. -/
def next : Nat → (newlines keywords : Bool) → Reading Token
  | 0, _, _ => return .endOfFile
  | fuel + 1, newlines, keywords => do
    let t ← token fuel
    match t with
    | .newline =>
      if newlines then
        readDocuments fuel
        next fuel newlines keywords
      else return t
    | t => return if keywords then t.asKeyword else t

/-- A list of commands after those that have been read. On the first level it ends with the
line; further down it may end before a token that only some other command can take. -/
def list : Nat → (isTop mayEnd : Bool) → Option Command → Reading (Option Command)
  | 0, _, _, _ => fail (.unexpected Token.endOfFile.name)
  | fuel + 1, isTop, mayEnd, done => do
    let first ← next fuel (!isTop) true
    match first with
    | .newline =>
      readDocuments fuel
      return done
    | .endOfFile =>
      readDocuments fuel
      pushBack first
      return done
    | _ =>
      pushBack first
      if ¬ isTop ∧ mayEnd ∧ first.endsList then return done
      let c ← andOr fuel none
      let t ← next fuel false false
      let isBackground : Bool := match t with
        | .operator "&" => true
        | _ => false
      let c := if isBackground then .background c else c
      let done := match done with
        | some before => Command.sequence before c
        | none => c
      match t with
      | .newline =>
        pushBack t
        list fuel isTop true (some done)
      | .endOfFile =>
        readDocuments fuel
        pushBack t
        return some done
      | .operator "&" | .operator ";" => list fuel isTop true (some done)
      | t =>
        if isTop then failOn t
        else
          pushBack t
          return some done

/-- Pipelines that are run depending on how the ones before them ended. -/
def andOr : Nat → Option (Command → Command) → Reading Command
  | 0, _ => fail (.unexpected Token.endOfFile.name)
  | fuel + 1, joined => do
    let c ← pipeline fuel joined.isSome joined.isSome
    let c := match joined with
      | some join => join c
      | none => c
    let t ← next fuel false false
    match t with
    | .operator "&&" => andOr fuel (some (Command.conjunction c))
    | .operator "||" => andOr fuel (some (Command.disjunction c))
    | t =>
      pushBack t
      return c

/-- Commands of which each reads what the one before it has written. -/
def pipeline : Nat → (newlines keywords : Bool) → Reading Command
  | 0, _, _ => fail (.unexpected Token.endOfFile.name)
  | fuel + 1, newlines, keywords => do
    let t ← next fuel newlines keywords
    let isNegated : Bool := match t with
      | .keyword "!" => true
      | _ => false
    if ¬ isNegated then pushBack t
    let first ← command fuel false isNegated
    let more ← piped fuel
    let c := if more.isEmpty then first else .pipeline (first :: more)
    return if isNegated then .negated c else c

/-- The further commands of a pipeline. -/
def piped : Nat → Reading (List Command)
  | 0 => return []
  | fuel + 1 => do
    let t ← next fuel false false
    match t with
    | .operator "|" =>
      let c ← command fuel true true
      return c :: (← piped fuel)
    | t =>
      pushBack t
      return []

/-- A list of commands that has to be there, and the keyword or operator after it. -/
def listUpTo : Nat → Token → Reading Command
  | 0, _ => fail (.unexpected Token.endOfFile.name)
  | fuel + 1, ending => do
    let body ← list fuel false false none
    let t ← next fuel false false
    if t.name = ending.name then
      match body with
      | some body => return body
      | none => failFor t ending
    else failFor t ending

/-- A command. -/
def command : Nat → (newlines keywords : Bool) → Reading Command
  | 0, _, _ => fail (.unexpected Token.endOfFile.name)
  | fuel + 1, newlines, keywords => do
    let line := (← get).line
    let t ← next fuel newlines keywords
    match t with
    | .keyword "if" =>
      let c ← ifThen fuel
      withRedirections fuel line c
    | .keyword "while" =>
      let test ← listUpTo fuel (.keyword "do")
      let body ← listUpTo fuel (.keyword "done")
      withRedirections fuel line (.repeated false test body)
    | .keyword "until" =>
      let test ← listUpTo fuel (.keyword "do")
      let body ← listUpTo fuel (.keyword "done")
      withRedirections fuel line (.repeated true test body)
    | .keyword "for" =>
      let c ← forEach fuel line
      withRedirections fuel line c
    | .keyword "case" =>
      let c ← choice fuel line
      withRedirections fuel line c
    | .keyword "\x7b" =>
      let body ← listUpTo fuel (.keyword "\x7d")
      let redirections ← redirectionsAfter fuel
      return .group line body redirections
    | .operator "(" =>
      let body ← listUpTo fuel (.operator ")")
      return .subshell line body (← redirectionsAfter fuel)
    | .word _ | .redirection .. =>
      pushBack t
      simple fuel line [] [] []
    | t => failOn t

/-- The redirections after a command that is made up of others. -/
def redirectionsAfter : Nat → Reading (List Redirection)
  | 0 => return []
  | fuel + 1 => do
    let t ← next fuel false true
    match t with
    | .redirection stream operator =>
      let r ← redirection fuel stream operator
      return r :: (← redirectionsAfter fuel)
    | t =>
      pushBack t
      return []

/-- A command with the redirections after it. -/
def withRedirections : Nat → Nat → Command → Reading Command
  | 0, _, c => return c
  | fuel + 1, line, c => do
    match ← redirectionsAfter fuel with
    | [] => return c
    | redirections => return .group line c redirections

/-- What follows an `if`. -/
def ifThen : Nat → Reading Command
  | 0 => fail (.unexpected Token.endOfFile.name)
  | fuel + 1 => do
    let test ← listUpTo fuel (.keyword "then")
    let some success ← list fuel false false none
      | failFor (← next fuel false false) (.keyword "fi")
    let t ← next fuel false false
    match t with
    | .keyword "elif" => return .conditional test success (some (← ifThen fuel))
    | .keyword "else" =>
      return .conditional test success (some (← listUpTo fuel (.keyword "fi")))
    | .keyword "fi" => return .conditional test success none
    | t => failFor t (.keyword "fi")

/-- What follows a `for`. -/
def forEach : Nat → Nat → Reading Command
  | 0, _ => fail (.unexpected Token.endOfFile.name)
  | fuel + 1, line => do
    let t ← next fuel false false
    let literal := match t with
      | .word pieces => (Word.literal? pieces).filter isName
      | _ => none
    let some name := literal | fail .badLoopVariable
    let t ← next fuel true true
    let words ← match t with
      | .keyword "in" => wordsUpToEnd fuel
      | .operator ";" => pure [[.parameter "@" .plain true]]
      | t => do
        pushBack t
        pure [[.parameter "@" .plain true]]
    let t ← next fuel true true
    match t with
    | .keyword "do" => return .forEach line name words (← listUpTo fuel (.keyword "done"))
    | t => failFor t (.keyword "do")

/-- The words of a loop, up to the end of the line or a semicolon. -/
def wordsUpToEnd : Nat → Reading (List Word)
  | 0 => return []
  | fuel + 1 => do
    let t ← next fuel false false
    match t with
    | .word pieces => return pieces :: (← wordsUpToEnd fuel)
    | .newline =>
      readDocuments fuel
      return []
    | .operator ";" => return []
    | t => failOn t

/-- What follows a `case`. -/
def choice : Nat → Nat → Reading Command
  | 0, _ => fail (.unexpected Token.endOfFile.name)
  | fuel + 1, line => do
    let t ← next fuel false false
    match t with
    | .word subject =>
      let t ← next fuel true true
      match t with
      | .keyword "in" => return .choice line subject (← cases fuel)
      | t => failFor t (.keyword "in")
    | t => failFor t (.word [])

/-- The cases of a choice. -/
def cases : Nat → Reading (List (List Word × Option Command))
  | 0 => fail (.unexpected Token.endOfFile.name)
  | fuel + 1 => do
    let t ← next fuel true true
    match t with
    | .keyword "esac" => return []
    | t =>
      let t ← match t with
        | .operator "(" => next fuel false false
        | t => pure t
      let patterns ← alternatives fuel t
      let body ← list fuel false true none
      let t ← next fuel true true
      match t with
      | .keyword "esac" => return [(patterns, body)]
      | .operator ";;" => return (patterns, body) :: (← cases fuel)
      | t => failFor t (.operator ";;")

/-- The patterns of a case, of which the first token has been read. -/
def alternatives : Nat → Token → Reading (List Word)
  | 0, _ => fail (.unexpected Token.endOfFile.name)
  | fuel + 1, t => do
    let pattern : Word := match t with
      | .word pieces => pieces
      | .keyword text => [.text text false]
      | _ => []
    let isPattern : Bool := match t with
      | .word _ | .keyword _ => true
      | _ => false
    if ¬ isPattern then failFor t (.operator ")")
    let t ← next fuel false false
    match t with
    | .operator "|" =>
      let t ← next fuel false false
      return pattern :: (← alternatives fuel t)
    | .operator ")" => return [pattern]
    | t => failFor t (.operator ")")

/-- The target of a redirection. -/
def redirection : Nat → Nat → String → Reading Redirection
  | 0, stream, _ => return .duplicate stream []
  | fuel + 1, stream, operator => do
    let t ← next fuel false false
    match t with
    | .word target =>
      match operator with
      | "<" => return .file stream .input target
      | ">" => return .file stream .output target
      | ">|" => return .file stream .clobber target
      | ">>" => return .file stream .appended target
      | "<>" => return .file stream .both target
      | "<&" | ">&" => return .duplicate stream target
      | operator =>
        let ending := String.join (target.map fun piece =>
          match piece with
          | .text text _ => text
          | _ => "")
        modifyGet fun s =>
          (.document stream s.nextDocument, { s with
            nextDocument := s.nextDocument + 1
            pending := s.pending ++ [{
              number := s.nextDocument, ending, dropsTabs := operator == "<<-"
              expands := (Word.literal? target).isSome }] })
    | t => failOn t

/-- A command without others in it, after what has been read of it. -/
def simple : Nat → Nat → List (String × Word) → List Word → List Redirection →
    Reading Command
  | 0, line, assignments, words, redirections =>
    return .simple line assignments words redirections
  | fuel + 1, line, assignments, words, redirections => do
    let t ← next fuel false false
    match t with
    | .word pieces =>
      match if words.isEmpty then assignment? pieces else none with
      | some a => simple fuel line (assignments ++ [a]) words redirections
      | none => simple fuel line assignments (words ++ [pieces]) redirections
    | .redirection stream operator =>
      let r ← redirection fuel stream operator
      simple fuel line assignments words (redirections ++ [r])
    | .operator "(" =>
      match assignments, words, redirections with
      | [], [word], [] => define fuel word
      | _, _, _ =>
        pushBack t
        return .simple line assignments words redirections
    | t =>
      pushBack t
      return .simple line assignments words redirections

/-- What follows the name of a function and an opening parenthesis. -/
def define : Nat → Word → Reading Command
  | 0, _ => fail .badFunctionName
  | fuel + 1, word => do
    let t ← next fuel false false
    match t with
    | .operator ")" =>
      match Word.literal? word with
      | some name =>
        if isName name ∧ ¬ specialCommands.contains name then
          let line := (← get).line
          return .define line name (← command fuel true true)
        else fail .badFunctionName
      | none => fail .badFunctionName
    | t => failFor t (.operator ")")

end

/-- The next command of a script, up to the end of its line. The first answer tells whether
the script goes on, the second one is the command if there is one on the line. -/
def command? : Reading (Bool × Option Command) := do
  modify fun s => { s with pushed := none }
  let fuel := 16 * ((← get).rest.length + 4)
  let c ← list fuel true false none
  let isAtEnd : Bool := match (← get).pushed with
    | some .endOfFile => true
    | _ => false
  return (c.isSome || !isAtEnd, c)

end Reading

end LintHost.Shell
