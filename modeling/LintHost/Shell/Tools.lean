import LintHost.Shell.Format
import LintHost.Shell.Machine

/-!
# The tools of the shell

The programs that scripts start, apart from the stream editor: `cat`, `echo` and `printf`. A
tool is an action of the process that runs it, which gives the status that it ends with. Its
first argument is the name that it is called by.
-/

namespace LintHost.Shell

/-- A program: what it does with its name and its arguments. -/
abbrev Tool := Raw → List Raw → Act Nat

/-! ### Options -/

/-- Options, which start with a hyphen and stand before a `--`, and the other arguments. -/
def splitOptions (args : List Raw) : List Raw × List Raw :=
  let before := args.takeWhile (· ≠ "--")
  let after := (args.dropWhile (· ≠ "--")).drop 1
  let isOption (a : Raw) : Bool := a.toList.head? == some '-' && a != "-"
  (before.filter isOption, before.filter (! isOption ·) ++ after)

/-- What a tool says about an option that it does not know. -/
def complainAboutOption (tool complaint : Raw) : Act Nat := do
  emit 2 (tool ++ ": " ++ complaint ++ "\nTry '" ++ tool ++ " --help' for more information.\n")
  return 1

/-- The letters of options, where a long name stands for letters; or what is said about one
that is not known. -/
def optionLettersOf (known : List Char) (names : List (String × List Char)) :
    List Raw → Except Raw (List Char)
  | [] => .ok []
  | option :: options => do
    let letters ← match option.toList with
      | '-' :: '-' :: _ =>
        match names.filter fun n => option.toList.isPrefixOf ("--" ++ n.1).toList with
        | [n] => pure n.2
        | [] => throw ("unrecognized option '" ++ option ++ "'")
        | several =>
          match several.find? fun n => "--" ++ n.1 = option with
          | some n => pure n.2
          | none => throw ("option '" ++ option ++ "' is ambiguous; possibilities:" ++
              String.join (several.map fun n => " '--" ++ n.1 ++ "'"))
      | letters =>
        match (letters.drop 1).find? fun c => !known.contains c with
        | some c => throw ("invalid option -- '" ++ String.singleton c ++ "'")
        | none => pure (letters.drop 1)
    return letters ++ (← optionLettersOf known names options)

/-! ### Writing out files -/

/-- How lines are written out. -/
structure LineStyle where
  numbersAll : Bool := false
  numbersFilled : Bool := false
  squeezes : Bool := false
  showsEnds : Bool := false
  showsTabs : Bool := false
  showsControls : Bool := false
deriving DecidableEq, Inhabited

namespace LineStyle

/-- The style that options ask for. -/
def ofLetters (letters : List Char) : LineStyle where
  numbersAll := letters.contains 'n'
  numbersFilled := letters.contains 'b'
  squeezes := letters.contains 's'
  showsEnds := ['A', 'e', 'E'].any letters.contains
  showsTabs := ['A', 't', 'T'].any letters.contains
  showsControls := ['A', 'e', 't', 'v'].any letters.contains

/-- A byte as it is shown. -/
def show_ (style : LineStyle) (c : Char) : List Char :=
  let low (c : Char) : List Char :=
    if c = '\x7f' then ['^', '?']
    else if c < ' ' then ['^', Char.ofNat (c.toNat + 0x40)]
    else [c]
  if c = '\t' then if style.showsTabs then ['^', 'I'] else [c]
  else if ¬ style.showsControls then [c]
  else if 0x80 ≤ c.toNat then 'M' :: '-' :: low (Char.ofNat (c.toNat - 0x80))
  else low c

/-- The number of a line in its field. -/
def numberText (n : Nat) : List Char :=
  let digits := Nat.toDigits 10 n
  List.replicate (6 - digits.length) ' ' ++ digits ++ ['\t']

/-- How far the writing has come: the number of the last line, whether a line is being
written, and whether the line before was empty. -/
structure Progress where
  number : Nat := 0
  isInLine : Bool := false
  wasEmpty : Bool := false

/-- What is written for some bytes. -/
def render (style : LineStyle) : Progress → List Char → List Char × Progress
  | p, [] => ([], p)
  | p, c :: rest =>
    let isEmpty := c == '\n' && !p.isInLine
    if isEmpty ∧ p.wasEmpty ∧ style.squeezes then render style p rest
    else
      let isNumbered := !p.isInLine &&
        (if style.numbersFilled then !isEmpty else style.numbersAll)
      let number := if isNumbered then p.number + 1 else p.number
      let label := if isNumbered then numberText number else []
      let isReturn := c == '\x0d' && style.showsEnds && !style.showsControls &&
        rest.head? == some '\n'
      let body :=
        if c = '\n' then if style.showsEnds then ['$', '\n'] else ['\n']
        else if isReturn then ['^', 'M'] else style.show_ c
      let (more, p) := render style
        { number, isInLine := c != '\n', wasEmpty := isEmpty } rest
      (label ++ body ++ more, p)

/-- Whether bytes are written as they are. -/
def isPlain (style : LineStyle) : Bool :=
  style == {}

end LineStyle

/-- The long names of the options of `cat`. -/
def catOptions : List (String × List Char) :=
  [("number-nonblank", ['b']), ("number", ['n']), ("squeeze-blank", ['s']),
    ("show-nonprinting", ['v']), ("show-ends", ['E']), ("show-tabs", ['T']), ("show-all", ['A'])]

/-- Writes out files one after the other; gives the status. -/
def catFiles (tool : Raw) (style : LineStyle) : LineStyle.Progress → List Raw → Act Nat
  | _, [] => return 0
  | p, file :: files => do
    match ← if file = "-" then readInput else readFile file with
    | .ok text =>
      let (shown, p) := if style.isPlain then (text.toList, p) else style.render p text.toList
      emit 1 (String.ofList shown)
      catFiles tool style p files
    | .error e =>
      emit 2 (tool ++ ": " ++ file ++ ": " ++ e ++ "\n")
      let _ ← catFiles tool style p files
      return 1

/-- Writes out files one after the other, or the input if none is named. -/
def cat : Tool := fun tool args => do
  let (options, files) := splitOptions args
  match optionLettersOf "AbeEnstTuv".toList catOptions options with
  | .error complaint => complainAboutOption tool complaint
  | .ok letters =>
    let files := if files.isEmpty then ["-"] else files
    let m ← get
    if (m.streams.lookup 1).isNone then
      emit 2 (tool ++ ": standard output: " ++ badStream ++ "\n")
      return 1
    let status ← catFiles tool (.ofLetters letters) {} files
    if files.contains "-" ∧ (m.streams.lookup 0).isNone then
      emit 2 (tool ++ ": closing standard input: " ++ badStream ++ "\n")
      return 1
    else return status

/-! ### Writing arguments -/

/-- Writes its arguments with blanks between them and ends the line. -/
def writeArguments (dialect : Option Dialect) (newline : Bool) (args : List Raw) :
    Act Unit := do
  let text := " ".intercalate args
  let ending := if newline then "\n" else ""
  match dialect with
  | some dialect =>
    let (cs, cut) := unescape dialect (text.length + 1) text.toList
    emit 1 (String.ofList cs ++ if cut.isSome then "" else ending)
  | none => emit 1 (text ++ ending)

/-- The status of a tool, which complains if something could not be written. -/
def checkWritten (tool : Raw) (status : Nat) : Act Nat := do
  if (← get).outputFailed then
    emit 2 (tool ++ ": write error: " ++ badStream ++ "\n")
    return 1
  else return status

/-- The `echo` of the shell: it reads escapes, and its one option is `-n`. -/
def echo : List Raw → Act Unit
  | "-n" :: args => writeArguments (some .shellText) false args
  | args => writeArguments (some .shellText) true args

/-- The `echo` outside the shell: it reads escapes only if it is told to. -/
def plainEcho : Tool := fun tool args => do
  let isOption (a : Raw) : Bool :=
    match a.toList with
    | '-' :: letters@(_ :: _) => letters.all fun c => c == 'n' || c == 'e' || c == 'E'
    | _ => false
  let letters := (args.takeWhile isOption).flatMap fun a => a.toList.drop 1
  let escapes := (letters.filter (· ≠ 'n')).getLast? = some 'e'
  writeArguments (if escapes then some .programEcho else none) (!letters.contains 'n')
    (args.dropWhile isOption)
  checkWritten tool 0

/-- Writes what a format has written. -/
def emitAll (written : List (Nat × Raw)) : Act Unit :=
  written.forM fun (stream, text) => emit stream text

/-- The `printf` outside the shell. -/
def plainPrintf : Tool := fun tool args => do
  match if args.head? = some "--" then args.drop 1 else args with
  | [] => complainAboutOption tool "missing operand"
  | format :: args =>
    let (written, status) := Formatter.run true tool format args
    emitAll written
    checkWritten tool status

end LintHost.Shell
