import LintHost.Shell.Regex.Reader
import LintHost.Shell.StreamEditor.Script

/-!
# Reading scripts of the stream editor

A script is put together from several texts, arguments and files, which are read one after the
other; a block may be open and a text may be missing at the end of each. Commands are read
character by character, since a fault is reported with the number of characters read.
-/

namespace LintHost.Shell.StreamEditor

/-! ### Faults -/

/-- Why a script cannot be read. -/
inductive Fault where
  | severalNegations
  | unexpectedComma
  | stepAsFirst
  | unmatchedBlock
  | unexpectedClosing
  | extraCharacters
  | missingText
  | addressBeforeClosing
  | addressBeforeLabel
  | addressBeforeComment
  | missingCommand
  | severalAddresses
  | unterminatedAddress
  | unterminatedSubstitution
  | unterminatedTransliteration
  | unknownFlag
  | severalPrintFlags
  | severalGlobalFlags
  | severalNumberFlags
  | zeroNumberFlag
  | differentLengths
  | newerVersion
  | lineZero
  | unknownCommand (c : Char)
  | missingLabel
  | nestedControl
  | missingFile
  | flagsOnEmptyExpression
  | badReference (number : Nat)
  | noExpression
  | badDelimiter
  | forbidden
  | expression (fault : Regex.Fault)
deriving DecidableEq, Inhabited

/-- The wording of a fault. -/
def Fault.message : Fault → Raw
  | .severalNegations => "multiple \x60!'s"
  | .unexpectedComma => "unexpected \x60,'"
  | .stepAsFirst => "invalid usage of +N or ~N as first address"
  | .unmatchedBlock => "unmatched \x60\x7b'"
  | .unexpectedClosing => "unexpected \x60\x7d'"
  | .extraCharacters => "extra characters after command"
  | .missingText => "expected \\ after \x60a', \x60c' or \x60i'"
  | .addressBeforeClosing => "\x60\x7d' doesn't want any addresses"
  | .addressBeforeLabel => ": doesn't want any addresses"
  | .addressBeforeComment => "comments don't accept any addresses"
  | .missingCommand => "missing command"
  | .severalAddresses => "command only uses one address"
  | .unterminatedAddress => "unterminated address regex"
  | .unterminatedSubstitution => "unterminated \x60s' command"
  | .unterminatedTransliteration => "unterminated \x60y' command"
  | .unknownFlag => "unknown option to \x60s'"
  | .severalPrintFlags => "multiple \x60p' options to \x60s' command"
  | .severalGlobalFlags => "multiple \x60g' options to \x60s' command"
  | .severalNumberFlags => "multiple number options to \x60s' command"
  | .zeroNumberFlag => "number option to \x60s' command may not be zero"
  | .differentLengths => "strings for \x60y' command are different lengths"
  | .newerVersion => "expected newer version of sed"
  | .lineZero => "invalid usage of line address 0"
  | .unknownCommand c => "unknown command: \x60" ++ String.singleton c ++ "'"
  | .missingLabel => "\":\" lacks a label"
  | .nestedControl => "recursive escaping after \\c not allowed"
  | .missingFile => "missing filename in r/R/w/W commands"
  | .flagsOnEmptyExpression => "cannot specify modifiers on empty regexp"
  | .badReference n => "invalid reference \\" ++ Nat.repr n ++ " on \x60s' command's RHS"
  | .noExpression => "no previous regular expression"
  | .badDelimiter => "delimiter character is not a single-byte character"
  | .forbidden => "e/r/w commands disabled in sandbox mode"
  | .expression fault => fault.message

/-! ### Drafts -/

/-- Where a text of a script comes from. -/
inductive Origin where
  | expression (number : Nat)
  | file (name : Raw)
deriving DecidableEq, Inhabited

/-- A script that is being read. -/
structure Draft where
  script : Script := {}
  isExtended : Bool := false
  /-- Whether commands are refused that run commands or use other files. -/
  isSandboxed : Bool := false
  origin : Origin := .expression 0
  /-- How many texts have been arguments. -/
  expressions : Nat := 0
  rest : List Char := []
  consumed : Nat := 0
  line : Nat := 1
  /-- Whether this is the first text. -/
  isFirst : Bool := true
  /-- The commands that open the blocks that are not closed. -/
  blocks : List Nat := []
  /-- The command whose text is still missing. -/
  pending : Option Nat := none
deriving Inhabited

/-- What is said if a script cannot be read. -/
def Draft.complaint (d : Draft) (fault : Fault) : Raw :=
  if fault = .expression .confusingClass then fault.message
  else match d.origin with
    | .expression n =>
      "-e expression #" ++ Nat.repr n ++ ", char " ++ Nat.repr d.consumed ++ ": " ++
        fault.message
    | .file name => "file " ++ name ++ " line " ++ Nat.repr d.line ++ ": " ++ fault.message

/-- A reader of a script; a fault comes with the draft as it is then. -/
abbrev Reading := ExceptT Fault (StateM Draft)

/-- Takes the next character. -/
def next? : Reading (Option Char) :=
  modifyGet fun d =>
    match d.rest with
    | [] => (none, d)
    | c :: rest =>
      let line := if c = '\n' then d.line + 1 else d.line
      (some c, { d with rest, consumed := d.consumed + 1, line })

/-- The next character, which is not taken. -/
def peek? : Reading (Option Char) := do
  return (← get).rest.head?

/-- Gives the character back that was taken last. -/
def giveBack (c : Option Char) : Reading Unit :=
  modify fun d =>
    match c with
    | none => d
    | some c =>
      let line := if c = '\n' then d.line - 1 else d.line
      { d with rest := c :: d.rest, consumed := d.consumed - 1, line }

/-- Takes the characters as long as they fulfil a condition. -/
def takeWhile (p : Char → Bool) : Reading (List Char) :=
  modifyGet fun d =>
    let taken := d.rest.takeWhile p
    (taken, { d with
      rest := d.rest.drop taken.length, consumed := d.consumed + taken.length
      line := d.line + taken.count '\n' })

/-- A blank on a line. -/
def isBlank (c : Char) : Bool :=
  c == ' ' || c == '\t'

/-- A blank or the end of a line. -/
def isSpace (c : Char) : Bool :=
  c == ' ' || ('\t' ≤ c && c ≤ '\x0d')

/-- Takes the next character that is not a blank. -/
def nextFilled? : Reading (Option Char) := do
  let _ ← takeWhile isBlank
  next?

/-- Takes the end of a command. -/
def endCommand : Reading Unit := do
  let c ← nextFilled?
  match c with
  | some '\x7d' | some '#' => giveBack c
  | none | some '\n' | some ';' => return ()
  | some _ => throw .extraCharacters

/-- Takes a number that starts with the given digit. -/
def numberFrom (first : Char) : Reading Nat := do
  let digits ← takeWhile Char.isDigit
  return Nat.ofDigitChars 10 (first :: digits) 0

/-! ### Texts between delimiters -/

/-- The place in brackets: whether a name has been opened, or closed again. -/
inductive BracketState where
  | plain
  | opened
  | named (mark : Char)
  | closing (mark : Char)
deriving DecidableEq, Inhabited

/-- The characters between brackets up to the closing one, which is last, and what follows;
none if the line ends before. -/
def bracketed : BracketState → List Char → Option (List Char × List Char)
  | _, [] => none
  | state, c :: rest =>
    let goOn (state : BracketState) : Option (List Char × List Char) :=
      (bracketed state rest).map fun (inside, rest) => (c :: inside, rest)
    if c = '\n' then none
    else match state with
      | .plain =>
        if c = ']' then some ([c], rest) else goOn (if c = '[' then .opened else .plain)
      | .opened =>
        if c = ']' then some ([c], rest)
        else if [':', '.', '='].contains c then goOn (.named c) else goOn .plain
      | .named mark => goOn (if c = mark then .closing mark else .named mark)
      | .closing mark =>
        if c = ']' then goOn .plain
        else goOn (if c = mark then .closing mark else .named mark)

/-- What follows an opening bracket up to the closing one: a bracket at the start does not
close. -/
def bracketedFrom (cs : List Char) : Option (List Char × List Char) :=
  let (negation, cs) := match cs with
    | '^' :: cs => (['^'], cs)
    | cs => ([], cs)
  let (first, cs) := match cs with
    | ']' :: cs => ([']'], cs)
    | cs => ([], cs)
  (bracketed .plain cs).map fun (inside, rest) => (negation ++ first ++ inside, rest)

/-- The characters up to a delimiter and what follows it; none, and what could not be read, if
there is no delimiter. The length is fuel enough. -/
def delimited (delimiter : Char) (isExpression : Bool) :
    Nat → List Char → Option (List Char) × List Char
  | 0, cs => (none, cs)
  | _, [] => (none, [])
  | fuel + 1, c :: rest =>
    let add (taken : List Char) (rest : List Char) : Option (List Char) × List Char :=
      let (more, rest) := delimited delimiter isExpression fuel rest
      (more.map (taken ++ ·), rest)
    if c = '\n' then (none, c :: rest)
    else if c = delimiter then (some [], rest)
    else if c = '\\' then
      match rest with
      | [] => (none, [])
      | d :: rest =>
        if d = 'n' ∧ isExpression ∧ d ≠ delimiter then add ['\n'] rest
        else if d = '\n' ∨ (d = delimiter ∧ (isExpression ∨ d ≠ '&')) then add [d] rest
        else add ['\\', d] rest
    else if c = '[' ∧ isExpression then
      match bracketedFrom rest with
      | some (inside, rest) => add ('[' :: inside) rest
      | none => (none, rest.dropWhile (· ≠ '\n'))
    else add [c] rest

/-- Takes the characters up to a delimiter. -/
def takeDelimited (delimiter : Char) (isExpression : Bool) (fault : Fault) :
    Reading (List Char) := do
  let d ← get
  let (taken, rest) := delimited delimiter isExpression (d.rest.length + 1) d.rest
  let read := d.rest.take (d.rest.length - rest.length)
  set { d with rest, consumed := d.consumed + read.length, line := d.line + read.count '\n' }
  match taken with
  | some taken => return taken
  | none => throw fault

/-! ### Escapes -/

/-- The digits of a base at the start, at most so many, as a byte. -/
def numberedByte? (base most : Nat) (cs : List Char) : Option (Char × List Char) :=
  let digit? (c : Char) : Option Nat :=
    let n := if c.isDigit then c.toNat - '0'.toNat
      else if 'a' ≤ c ∧ c ≤ 'f' then c.toNat - 'a'.toNat + 10
      else if 'A' ≤ c ∧ c ≤ 'F' then c.toNat - 'A'.toNat + 10
      else base
    if n < base then some n else none
  let digits := ((cs.take most).map digit?).takeWhile Option.isSome
  if digits.isEmpty then none
  else
    let n := digits.foldl (fun n d => n * base + d.getD 0) 0
    some (Char.ofNat (n % 256), cs.drop digits.length)

/-- A text in which the escapes that stand for a character are replaced. A character that is
special keeps a backslash before it, and so do all other characters that have one. The length
is fuel enough. -/
def convert (special : List Char) : Nat → List Char → Except Fault (List Char)
  | 0, cs => .ok cs
  | _, [] => .ok []
  | fuel + 1, '\\' :: c :: rest => do
    let named : Option Char :=
      [('a', '\x07'), ('f', '\x0c'), ('n', '\n'), ('r', '\x0d'), ('t', '\t'),
        ('v', '\x0b')].lookup c
    let numbered : Option (Char × List Char) := match c with
      | 'd' => numberedByte? 10 3 rest
      | 'o' => numberedByte? 8 3 rest
      | 'x' => numberedByte? 16 2 rest
      | _ => none
    match named, numbered with
    | some d, _ => return d :: (← convert special fuel rest)
    | none, some (d, rest) =>
      let shown := if special.contains d then ['\\', d] else [d]
      return shown ++ (← convert special fuel rest)
    | none, none =>
      if c = 'c' then
        match rest with
        | [] => return ['\\', '\\']
        | '\\' :: '\\' :: rest => return '\x1c' :: (← convert special fuel rest)
        | '\\' :: _ => throw .nestedControl
        | d :: rest =>
          let control := Char.ofNat (Nat.xor d.toUpper.toNat 0x40)
          return control :: (← convert special fuel rest)
      else return '\\' :: c :: (← convert special fuel rest)
  | fuel + 1, c :: rest => do return c :: (← convert special fuel rest)

/-- A text in which the escapes that stand for a character are replaced. -/
def converted (special cs : List Char) : Reading (List Char) :=
  match convert special (cs.length + 1) cs with
  | .ok cs => return cs
  | .error fault => throw fault

/-- A text without the backslashes before other characters. -/
def dropBackslashes : List Char → List Char
  | '\\' :: c :: rest => c :: dropBackslashes rest
  | c :: rest => c :: dropBackslashes rest
  | [] => []

/-! ### Expressions -/

/-- The searcher for an expression as it is written; an empty one stands for the one used
last. -/
def searcherFor (cs : List Char) (ignoresCase linewise : Bool) : Reading (Option Searcher) := do
  if cs.isEmpty then
    if ignoresCase ∨ linewise then throw .flagsOnEmptyExpression
    return none
  let cs ← converted [] cs
  match Regex.read (← get).isExtended (Raw.glyphs (String.ofList cs)) with
  | .ok (e, groups) => return some (.ofRegex e groups ignoresCase linewise)
  | .error fault => throw (.expression fault)

/-! ### Addresses -/

/-- Takes the flags after an expression that is an address. -/
def addressFlags : Nat → (ignoresCase linewise : Bool) → Reading (Bool × Bool)
  | 0, i, m => return (i, m)
  | fuel + 1, i, m => do
    let c ← nextFilled?
    match c with
    | some 'I' => addressFlags fuel true m
    | some 'M' => addressFlags fuel i true
    | c =>
      giveBack c
      return (i, m)

/-- Takes a number that may not be there, after blanks. -/
def optionalNumber : Reading Nat := do
  let c ← nextFilled?
  match c with
  | some d =>
    if d.isDigit then numberFrom d
    else
      giveBack c
      return 0
  | none => return 0

/-- Takes an address that starts with the given character, if it does start one. -/
def address? (c : Option Char) : Reading (Option Address) := do
  let expression (delimiter : Char) : Reading (Option Address) := do
    let cs ← takeDelimited delimiter true .unterminatedAddress
    let (i, m) ← addressFlags ((← get).rest.length + 1) false false
    return some (.found (← searcherFor cs i m))
  match c with
  | none => return none
  | some '/' => expression '/'
  | some '\\' =>
    match ← next? with
    | some delimiter => expression delimiter
    | none => throw .unterminatedAddress
  | some '$' => return some .last
  | some '+' => return some (.further (← optionalNumber))
  | some '~' => return some (.multiple (← optionalNumber))
  | some c =>
    if c.isDigit then
      let first ← numberFrom c
      let after ← nextFilled?
      if after = some '~' then
        let every ← optionalNumber
        return some (if every = 0 then .line first else .step first every)
      else
        giveBack after
        return some (.line first)
    else return none

/-- Takes the lines that a command is run for, of which the first character is given, and the
next character. -/
def selection (c : Option Char) : Reading (Selection × Option Char) := do
  match ← address? c with
  | none => return (.all, c)
  | some first =>
    let isStep : Bool := match first with
      | .further _ | .multiple _ => true
      | _ => false
    if isStep then throw .stepAsFirst
    let c ← nextFilled?
    let (stop, c) ←
      if c = some ',' then do
        match ← address? (← nextFilled?) with
        | none => throw .unexpectedComma
        | some stop => pure (some stop, ← nextFilled?)
      else pure (none, c)
    match first, stop with
    | .line 0, some (.found searcher) => return (.range first (.found searcher), c)
    | .line 0, none => if c = some 'r' then return (.one first, c) else throw .lineZero
    | .line 0, _ => throw .lineZero
    | _, some stop => return (.range first stop, c)
    | _, none => return (.one first, c)

/-! ### Arguments of commands -/

/-- Takes the name of a file, which goes to the end of the line. -/
def fileName : Reading Raw := do
  let _ ← takeWhile isBlank
  let name ← takeWhile (· ≠ '\n')
  if name.isEmpty then throw .missingFile
  let _ ← next?
  return String.ofList name

/-- Takes a label. -/
def label : Reading String := do
  let _ ← takeWhile isBlank
  return String.ofList (← takeWhile fun c => !isSpace c && c != ';')

/-- The characters of a text up to the end of its last line, where a backslash joins lines,
and what follows. -/
def textLines : List Char → List Char × List Char
  | [] => (['\n'], [])
  | ['\\'] => (['\n'], [])
  | '\\' :: c :: rest =>
    let (text, rest) := textLines rest
    ('\\' :: c :: text, rest)
  | c :: rest =>
    if c = '\n' then (['\n'], rest)
    else
      let (text, rest) := textLines rest
      (c :: text, rest)

/-- Takes the lines of a text. -/
def text : Reading Raw := do
  let d ← get
  let (lines, rest) := textLines d.rest
  let count := d.rest.length - rest.length
  let newlines := (d.rest.take count).count '\n'
  set { d with rest, consumed := d.consumed + count, line := d.line + newlines }
  return String.ofList (dropBackslashes (← converted ['\\'] lines))

/-- Takes the text of a command; it may be missing up to the next text of the script. -/
def textArgument : Reading (Option Raw) := do
  let c ← nextFilled?
  match c with
  | none => throw .missingText
  | some '\\' =>
    match ← peek? with
    | none => return none
    | some '\n' =>
      let _ ← next?
      return some (← text)
    | some d =>
      if d = '\\' ∨ isBlank d then return some (← text)
      else
        let _ ← next?
        return some (String.singleton d ++ (← text))
  | c =>
    giveBack c
    return some (← text)

/-! ### Substitutions -/

/-- How the letters of the next parts are changed: the mode that lasts, and one for the first
letter. -/
structure LetterModes where
  lasting : LetterMode := .asIs
  first : LetterMode := .asIs

/-- The parts of a replacement, after text that has been read already and is kept in
reverse. -/
def replacementParts : LetterModes → List Char → List Char → List ReplacementPart
  | modes, before, [] =>
    if before.isEmpty then []
    else [{ text := String.ofList before.reverse, mode := modes.lasting, first := modes.first }]
  | modes, before, c :: rest =>
    let part (extra : List Char) (group : Option Nat) : ReplacementPart :=
      { text := String.ofList (before.reverse ++ extra), group, mode := modes.lasting
        first := modes.first }
    let lasting := { modes with first := .asIs }
    match c, rest with
    | '&', rest => part [] (some 0) :: replacementParts lasting [] rest
    | '\\', d :: rest =>
      if d.isDigit then
        part [] (some (d.toNat - '0'.toNat)) :: replacementParts lasting [] rest
      else match d with
        | 'L' => part [] none :: replacementParts { lasting := .lower } [] rest
        | 'U' => part [] none :: replacementParts { lasting := .upper } [] rest
        | 'E' => part [] none :: replacementParts {} [] rest
        | 'l' => part [] none :: replacementParts { lasting with first := .lower } [] rest
        | 'u' => part [] none :: replacementParts { lasting with first := .upper } [] rest
        | d => part [d] none :: replacementParts lasting [] rest
    | c, rest => replacementParts modes (c :: before) rest

/-- The flags of a substitution. -/
structure Flags where
  isGlobal : Bool := false
  prints : Bool := false
  executes : Bool := false
  printsFirst : Bool := false
  number : Option Nat := none
  ignoresCase : Bool := false
  linewise : Bool := false
  file : Option Raw := none

/-- Refuses a command that runs a command or uses another file. -/
def refuseInSandbox : Reading Unit := do
  if (← get).isSandboxed then throw .forbidden

/-- Takes the flags of a substitution, after those that have been read. -/
def substitutionFlags : Nat → Flags → Reading Flags
  | 0, f => return f
  | fuel + 1, f => do
    let c ← nextFilled?
    match c with
    | none | some '\n' | some ';' => return f
    | some '\x7d' | some '#' =>
      giveBack c
      return f
    | some 'i' | some 'I' => substitutionFlags fuel { f with ignoresCase := true }
    | some 'm' | some 'M' => substitutionFlags fuel { f with linewise := true }
    | some 'e' =>
      refuseInSandbox
      substitutionFlags fuel { f with executes := true }
    | some 'p' =>
      if f.prints then throw .severalPrintFlags
      substitutionFlags fuel { f with prints := true, printsFirst := !f.executes }
    | some 'g' =>
      if f.isGlobal then throw .severalGlobalFlags
      substitutionFlags fuel { f with isGlobal := true }
    | some 'w' =>
      refuseInSandbox
      return { f with file := some (← fileName) }
    | some '\x0d' =>
      if (← next?) = some '\n' then return f else throw .unknownFlag
    | some c =>
      if ¬ c.isDigit then throw .unknownFlag
      if f.number.isSome then throw .severalNumberFlags
      let number ← numberFrom c
      if number = 0 then throw .zeroNumberFlag
      substitutionFlags fuel { f with number := some number }

/-- Takes a substitution. -/
def substitution : Reading Substitution := do
  let some delimiter ← next? | throw .unterminatedSubstitution
  if 0x80 ≤ delimiter.toNat then throw .badDelimiter
  let expression ← takeDelimited delimiter true .unterminatedSubstitution
  let replacement ← takeDelimited delimiter false .unterminatedSubstitution
  let parts := replacementParts {} [] (← converted ['\\', '&'] replacement)
  let flags ← substitutionFlags ((← get).rest.length + 1) {}
  let searcher ← searcherFor expression flags.ignoresCase flags.linewise
  let greatest := parts.foldl (fun n p => max n (p.group.getD 0)) 0
  if searcher.any (·.groups < greatest) then throw (.badReference greatest)
  return {
    searcher, parts, isGlobal := flags.isGlobal, prints := flags.prints
    executes := flags.executes, printsFirst := flags.printsFirst, number := flags.number.getD 1, file := flags.file }

/-- Takes a list of characters and those that stand for them. -/
def transliteration : Reading (List (Raw.Glyph × Raw.Glyph)) := do
  let some delimiter ← next? | throw .unterminatedTransliteration
  if 0x80 ≤ delimiter.toNat then throw .badDelimiter
  let glyphs (cs : List Char) : Reading (List Raw.Glyph) := do
    return Raw.glyphs (String.ofList (dropBackslashes (← converted ['\\'] cs)))
  let sources ← glyphs (← takeDelimited delimiter false .unterminatedTransliteration)
  let targets ← glyphs (← takeDelimited delimiter false .unterminatedTransliteration)
  if sources.length ≠ targets.length then throw .differentLengths
  endCommand
  return sources.zip targets

/-! ### Commands -/

/-- The version of the notation that is read: three numbers. -/
def version : List Nat := [4, 9, 0]

/-- Whether a version is a later one. -/
def isLater (text : String) : Bool :=
  let numbers := (text.splitOn ".").map fun n => Nat.ofDigitChars 10 n.toList 0
  decide (version < numbers)

/-- Adds a command. -/
def add (c : Command) : Reading Unit :=
  modify fun d => { d with script := { d.script with commands := d.script.commands.push c } }

/-- Takes the action of a command after its first character, which is none of those that do
more than one command. -/
def action (hasRange : Bool) (c : Char) : Reading Action := do
  let plain (a : Action) : Reading Action := do
    endCommand
    return a
  let numbered (make : Option Nat → Action) : Reading Action := do
    let c ← nextFilled?
    let isNumber := c.any Char.isDigit
    let n ← if isNumber then numberFrom (c.getD '0') else pure 0
    if ¬ isNumber then giveBack c
    endCommand
    return make (if isNumber then some n else none)
  let withText (make : Raw → Action) : Reading Action := do
    match ← textArgument with
    | some text => return make text
    | none =>
      modify fun d => { d with pending := some d.script.commands.size }
      return make ""
  let jump (condition : JumpCondition) : Reading Action := do
    return .jump condition (← label)
  if ['e', 'r', 'R', 'w', 'W'].contains c then refuseInSandbox
  match c with
  | '=' => plain .lineNumber
  | 'd' => plain .delete
  | 'D' => plain .deleteLine
  | 'F' => plain .fileName
  | 'g' => plain .get
  | 'G' => plain .getAppended
  | 'h' => plain .hold
  | 'H' => plain .holdAppended
  | 'n' => plain .next
  | 'N' => plain .nextAppended
  | 'p' => plain .print
  | 'P' => plain .printLine
  | 'x' => plain .exchange
  | 'z' => plain .clear
  | 'a' => withText .append
  | 'i' => withText .insert
  | 'c' => withText .change
  | 'b' => jump .always
  | 't' => jump .ifReplaced
  | 'T' => jump .unlessReplaced
  | 'e' =>
    let _ ← takeWhile isBlank
    let command ← takeWhile (· ≠ '\n')
    let _ ← next?
    return .execute (String.ofList command)
  | 'l' | 'L' => numbered .list
  | 'q' | 'Q' =>
    if hasRange then throw .severalAddresses
    numbered fun n => .quit (n.getD 0) (c == 'q')
  | 'r' => return .readFile (← fileName)
  | 'R' => return .readLine (← fileName)
  | 'w' => return .writeFile (← fileName)
  | 'W' => return .writeLine (← fileName)
  | 's' => return .substitute (← substitution)
  | 'y' => return .transliterate (← transliteration)
  | c => throw (.unknownCommand c)

/-- Takes a comment. At the very start of a script one may ask for quiet. -/
def comment : Reading Unit := do
  let d ← get
  if d.isFirst ∧ d.consumed = 1 ∧ d.rest.head? = some 'n' then
    set { d with script := { d.script with isQuiet := true } }
  let _ ← takeWhile (· ≠ '\n')

/-- Takes a command that starts with the given character. -/
def command (c : Char) : Reading Unit := do
  let (selection, c) ← selection (some c)
  let isSelective : Bool := match selection with
    | .all => false
    | _ => true
  let hasRange : Bool := match selection with
    | .range .. => true
    | _ => false
  let isNegated := c == some '!'
  let c ← if isNegated then nextFilled? else pure c
  if isNegated ∧ c = some '!' then throw .severalNegations
  match c with
  | none => throw .missingCommand
  | some '#' =>
    if isSelective then throw .addressBeforeComment
    comment
  | some ':' =>
    if isSelective then throw .addressBeforeLabel
    let name ← label
    if name = "" then throw .missingLabel
    modify fun d => { d with script := { d.script with
      labels := (name, d.script.commands.size) :: d.script.labels } }
  | some 'v' => if isLater (← label) then throw .newerVersion
  | some '\x7b' =>
    modify fun d => { d with blocks := d.script.commands.size :: d.blocks }
    add { selection, isNegated, action := .block 0 }
  | some '\x7d' =>
    match (← get).blocks with
    | [] => throw .unexpectedClosing
    | opener :: blocks =>
      if isSelective then throw .addressBeforeClosing
      endCommand
      modify fun d =>
        let stop := d.script.commands.size
        let commands := d.script.commands.modify opener fun c => { c with action := .block stop }
        { d with blocks, script := { d.script with commands } }
  | some '\n' | some ';' => throw .missingCommand
  | some c =>
    let action ← action hasRange c
    match selection, action with
    | .one (.line 0), .readFile file =>
      add { selection := .one (.line 1), isNegated, action := .insertFile file }
    | _, _ => add { selection, isNegated, action }

/-- Takes all commands of a text. The length of the text is fuel enough. -/
def commands : Nat → Reading Unit
  | 0 => return ()
  | fuel + 1 => do
    let _ ← takeWhile fun c => isSpace c || c == ';'
    match ← next? with
    | none => return ()
    | some c =>
      command c
      commands fuel

/-- The action with a text that was missing. -/
def Action.withText (text : Raw) : Action → Action
  | .append _ => .append text
  | .insert _ => .insert text
  | .change _ => .change text
  | a => a

/-- Reads a text of a script. -/
def readText : Reading Unit := do
  match (← get).pending with
  | none => pure ()
  | some number =>
    let text ← text
    modify fun d => { d with
      pending := none
      script := { d.script with
        commands := d.script.commands.modify number fun c =>
          { c with action := c.action.withText text } } }
  commands ((← get).rest.length + 1)

/-- Why the editor does not start: what is said, and the status that it ends with. -/
structure Refusal where
  message : Raw
  status : Nat
deriving DecidableEq, Inhabited

/-- The refusal of a script with a fault. -/
def Draft.refusal (d : Draft) (fault : Fault) : Refusal where
  message := d.complaint fault
  status := if fault = .expression .confusingClass then 4 else 1

/-- Reads the next text of a script; gives what is said if it cannot be read. -/
def Draft.read (d : Draft) (file : Option Raw) (text : Raw) : Except Refusal Draft :=
  let expressions := if file.isSome then d.expressions else d.expressions + 1
  let origin : Origin := match file with
    | some name => .file name
    | none => .expression expressions
  match readText.run { d with
      origin, expressions, rest := text.toList, consumed := 0, line := 1 } with
  | (.ok (), d) => .ok { d with isFirst := false }
  | (.error fault, d) => .error (d.refusal fault)

/-- The script that has been read, if nothing is missing. -/
def Draft.finish (d : Draft) : Except Refusal Script :=
  if ¬ d.blocks.isEmpty then .error ({ d with consumed := 0 }.refusal .unmatchedBlock)
  else
    let missing := d.script.commands.toList.findSome? fun c =>
      match c.action with
      | .jump _ label =>
        if label = "" ∨ (d.script.labels.lookup label).isSome then none else some label
      | _ => none
    match missing with
    | some label =>
      .error { message := "can't find label for jump to \x60" ++ label ++ "'", status := 4 }
    | none => .ok { d.script with
        complaint := { d with consumed := 0 }.complaint .noExpression }

end LintHost.Shell.StreamEditor
