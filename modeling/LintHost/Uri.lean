import LintHost.Host
import LintHost.Path
import LintHost.Uri.Folders

/-!
# Document identifiers

An editor names a document by a URI. Two spellings of one URI name one document, so a URI is
kept in the normal form of the URL standard: the scheme in lower case, the host as `Host` has
it, `.` and `..` resolved in the path, and characters that may not stand in it
percent-encoded. `Uri.parse` reads a text into that form, `Uri.text` writes it, and
`Uri.filePath?` gives the local path that a `file` URI stands for, with percent-encoded bytes
decoded.

The schemes of the web always have a host and a path; a `file` URI has a path and may have a
host. In both a backslash is a slash. Any other URI may have neither: a path that does not start
with a slash is opaque and is kept as it is, apart from encoding.
-/

namespace LintHost

/-- The part of a URI after two slashes. -/
structure Authority where
  /-- The name and the password of a user, encoded, with a colon between them if there is a
  password. -/
  user : List Char
  host : Host
  /-- The port, unless it is the one that the scheme has anyway. -/
  port : Option Nat
deriving DecidableEq, Inhabited

/-- A URI in normal form. -/
structure Uri where
  scheme : String
  authority : Option Authority
  path : String
  query : Option String
  fragment : Option String
deriving DecidableEq, Inhabited

namespace Uri

/-- The text up to the first character of a set, and the rest from there. -/
def upTo (stops : List Char) (cs : List Char) : List Char × List Char :=
  (cs.takeWhile fun c => !stops.contains c, cs.dropWhile fun c => !stops.contains c)

/-! ### Schemes -/

/-- The schemes of the web, with the port that need not be written. -/
def webPorts : List (String × Nat) :=
  [("http", 80), ("https", 443), ("ws", 80), ("wss", 443), ("ftp", 21)]

/-- Whether a scheme is one of the web. -/
def isWeb (scheme : String) : Bool :=
  (webPorts.lookup scheme).isSome

/-- The scheme of a text, in lower case, and what follows its colon. -/
def splitScheme (cs : List Char) : Option (String × List Char) :=
  let isSchemeChar (c : Char) := c.isAlphanum || c == '+' || c == '-' || c == '.'
  match cs.takeWhile isSchemeChar, cs.dropWhile isSchemeChar with
  | first :: more, ':' :: rest =>
    if first.isAlpha then some (String.ofList ((first :: more).map Char.toLower), rest) else none
  | _, _ => none

/-! ### Query and fragment -/

/-- The query and the fragment that end a URI. -/
def queryAndFragment (special : Bool) (cs : List Char) : Option String × Option String :=
  let fragmentOf : List Char → Option String
    | '#' :: rest => some (String.ofList (encode fragmentSet rest))
    | _ => none
  match cs with
  | '?' :: rest =>
    let (query, rest) := upTo ['#'] rest
    (some (String.ofList (encode (querySet special) query)), fragmentOf rest)
  | rest => (none, fragmentOf rest)

/-! ### Authorities -/

/-- The text before the last `@` and the text after it. -/
def splitUser (cs : List Char) : Option (List Char) × List Char :=
  match (Text.splitOn '@' cs).reverse with
  | last :: user@(_ :: _) => (some (Text.join '@' user.reverse), last)
  | _ => (none, cs)

/-- The name and the password of a user, encoded. The first colon stands between them, and is
left out if no password follows. -/
def encodeUser (cs : List Char) : List Char :=
  match upTo [':'] cs with
  | (name, _ :: password@(_ :: _)) => encode userSet name ++ ':' :: encode userSet password
  | (name, _) => encode userSet name

/-- The text of a host and what follows it: a colon outside brackets ends the host. -/
def splitHost (inBrackets : Bool) : List Char → List Char × List Char
  | [] => ([], [])
  | c :: cs =>
    if c = ':' ∧ !inBrackets then ([], c :: cs)
    else
      let (host, rest) := splitHost (c == '[' || (inBrackets && c != ']')) cs
      (c :: host, rest)

/-- The port that follows a host, and what follows the port: in a scheme that has no path
separator of that shape, a backslash ends the port and belongs to the path. -/
def readPort (scheme : String) (cs : List Char) : Except UriError (Option Nat × List Char) :=
  match cs with
  | [] => .ok (none, [])
  | _ :: cs =>
    let digits := cs.takeWhile Char.isDigit
    let rest := cs.dropWhile Char.isDigit
    let number := Nat.ofDigitChars 10 digits 0
    if 0xffff < number ∨ (rest ≠ [] ∧ rest.head? ≠ some '\\') then .error .invalidPort
    else if digits = [] ∨ webPorts.lookup scheme = some number then .ok (none, rest)
    else .ok (some number, rest)

/-- Reads the text between two slashes and the path, and what of it belongs to the path. A user
and a port need a host, and so does a scheme of the web; `isLast` tells that nothing follows the
text. -/
def readAuthority (scheme : String) (cs : List Char) (isLast : Bool) :
    Except UriError (Authority × List Char) := do
  let (user?, cs) := splitUser cs
  let user := (user?.map encodeUser).getD []
  if user? = some [] ∧ cs = [] ∧ !isLast then throw .emptyHost
  let (hostText, rest) := splitHost false cs
  if isWeb scheme ∧ hostText = [] then throw .emptyHost
  let host ← if isWeb scheme then Host.ofText hostText else Host.ofOpaque hostText
  if host = .empty ∧ rest ≠ [] then throw .emptyHost
  let (port, rest) ← readPort scheme rest
  if host = .empty ∧ user ≠ [] then throw .emptyHost
  return ({ user, host, port }, rest)

/-! ### The three kinds of URI -/

/-- A text in which every backslash before the query and the fragment is a slash. -/
def slashed (cs : List Char) : List Char :=
  let (before, after) := upTo ['?', '#'] cs
  before.map (fun c => if c = '\\' then '/' else c) ++ after

/-- What follows the colon of a `file` URI. The local host is left out, and so is any host
before a drive; a drive in the place of a host belongs to the path. -/
def parseFile (cs : List Char) : Except UriError Uri := do
  let (before, after) := upTo ['?', '#'] (slashed cs)
  let (query, fragment) := queryAndFragment true after
  let make (host : Host) (folders : Folders) : Uri :=
    { scheme := "file"
      authority := some ⟨[], if folders.hasDrive then .empty else host, none⟩
      path := String.ofList (folders.text true), query, fragment }
  match before with
  | '/' :: '/' :: rest =>
    let (hostText, path) := upTo ['/'] rest
    if isDriveLetter hostText then return make .empty (Folders.root.read true rest)
    else if hostText = [] then return make .empty (Folders.root.read true path)
    else
      let host ← Host.ofText hostText
      if host = .name "localhost".toList then return make .empty (Folders.root.read true path)
      else return make host (Folders.root.read true (path.drop 1))
  | '/' :: _ => return make .empty (Folders.start.read true before)
  | _ => return make .empty (Folders.root.read true before)

/-- What follows the colon of a URI of the web. -/
def parseWeb (scheme : String) (cs : List Char) : Except UriError Uri := do
  let (authority, rest) := upTo ['/', '?', '#'] ((slashed cs).dropWhile (· == '/'))
  let (path, after) := upTo ['?', '#'] rest
  let (query, fragment) := queryAndFragment true after
  let (authority, _) ← readAuthority scheme authority (rest = [])
  return { scheme, authority := some authority
           path := String.ofList ((Folders.root.read false (path.drop 1)).text false)
           query, fragment }

/-- What follows the colon of a URI of any other scheme. -/
def parseOther (scheme : String) (cs : List Char) : Except UriError Uri := do
  let (before, after) := upTo ['?', '#'] cs
  let (query, fragment) := queryAndFragment false after
  match before with
  | '/' :: '/' :: rest =>
    let (authority, path) := upTo ['/'] rest
    let (authority, inPath) ← readAuthority scheme authority (path = [] ∧ after = [])
    let folders := if inPath = [] then Folders.start else Folders.root
    return { scheme, authority := some authority
             path := String.ofList ((folders.read false (inPath ++ path)).text false)
             query, fragment }
  | '/' :: _ =>
    return { scheme, authority := none
             path := String.ofList ((Folders.start.read false before).text false)
             query, fragment }
  | _ =>
    return { scheme, authority := none, path := String.ofList (encode [] before), query, fragment }

/-! ### Reading and writing -/

/-- The text without blanks and controls at its ends and without line ends and tabs. -/
def cleaned (text : String) : List Char :=
  let isEdge (c : Char) : Bool := c.toNat ≤ 0x20
  (Text.dropTrailing isEdge (text.toList.dropWhile isEdge)).filter fun c =>
    c ≠ '\t' ∧ c ≠ '\n' ∧ c ≠ '\r'

/-- Reads a URI into its normal form. -/
def parse (text : String) : Except UriError Uri :=
  match splitScheme (cleaned text) with
  | none => .error .noScheme
  | some (scheme, rest) =>
    if scheme = "file" then parseFile rest
    else if isWeb scheme then parseWeb scheme rest
    else parseOther scheme rest

/-- The text of an authority. -/
def authorityText (a : Authority) : List Char :=
  (if a.user = [] then [] else a.user ++ ['@']) ++ a.host.text ++
    (match a.port with | some port => ':' :: Nat.toDigits 10 port | none => [])

/-- What stands between the scheme and the path. Without an authority a path that starts with
two slashes is set off by `/.`, so that it is not read as one. -/
def authorityMark (uri : Uri) : String :=
  match uri.authority with
  | some authority => "//" ++ String.ofList (authorityText authority)
  | none => if "//".toList.isPrefixOf uri.path.toList then "/." else ""

/-- The text of a URI. -/
def text (uri : Uri) : String :=
  uri.scheme ++ ":" ++ authorityMark uri ++ uri.path ++
    (match uri.query with | some query => "?" ++ query | none => "") ++
    (match uri.fragment with | some fragment => "#" ++ fragment | none => "")

/-! ### Local paths -/

/-- A path that ends with a letter and a colon or a bar names a drive, and gets a slash. -/
def closeDrive (cs : List Char) : List Char :=
  match cs.reverse with
  | mark :: letter :: _ :: _ => if isDriveLetter [letter, mark] then cs ++ ['/'] else cs
  | _ => cs

/-- The local path of a `file` URI without a host. -/
def filePath? (uri : Uri) : Option Path :=
  if uri.scheme = "file" ∧ uri.authority.map Authority.host = some .empty then
    some (Path.ofChars (closeDrive (Text.decode8Lossy (decode uri.path.toList))))
  else none

/-- The extensions of the files that are linted. -/
def sourceExtensions : List String := ["py", "pyi"]

/-- The local path of a document that is to be linted. -/
def sourcePath? (uri : Uri) : Option Path := do
  let path ← uri.filePath?
  let extension ← path.extension?
  if sourceExtensions.contains extension then some path else none

end Uri

end LintHost
