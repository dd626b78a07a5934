import LintHost.Server.ForeignRequests
import LintHost.Server.Params

/-!
# The protocol between client and server

A client sends requests, which are answered, and notifications, which are not. It starts the
server with one request, `initialize`, ends its work with another, `shutdown`, and stops it
with the notification `exit`. `Phase` says how far this has come, and `Connection.deliver`
what a message does: the phase and the state afterwards, the answer, and the lints it starts.

* Only the first start counts; later ones are refused.
* Between start and shutdown the server handles what it knows. Before, requests are told that
  it has not started; afterwards they are refused; notifications are ignored without a word.
* A request for a method that does not exist is answered with an error at any time, but for
  the optional methods, whose names start with `$/`.
* A notification whose parameters cannot be read is ignored; a request with the method of a
  notification is refused.
* After the exit nothing is answered or sent.
-/

namespace LintHost

/-! ### Messages and answers -/

/-- How far a connection has come. -/
inductive Phase where
  | unstarted
  | started
  | shutDown
  | exited
deriving DecidableEq, Inhabited

/-- A message of the client. -/
structure ClientMessage where
  method : String
  params : Option Json := none
  /-- Whether the client waits for an answer. -/
  isRequest : Bool := false
deriving Inhabited

/-- What is wrong with the parameters of a request. -/
inductive ParamsFault where
  | missing
  /-- The method has no parameters. -/
  | unexpected (params : Json)
  | misshapen (error : ShapeError)
deriving Inhabited

/-- The wording of a fault in parameters. -/
def ParamsFault.message : ParamsFault → String
  | .missing => "Missing params field"
  | .unexpected params => "Unexpected params: " ++ params.canonical.render
  | .misshapen error => error.message

/-- Why a request has no result. -/
inductive RequestError where
  | notStarted
  | invalidRequest
  | methodNotFound
  | invalidParams (fault : ParamsFault)
deriving Inhabited

namespace RequestError

/-- The number of an error in the protocol. -/
def code : RequestError → Int
  | .notStarted => -32002
  | .invalidRequest => -32600
  | .methodNotFound => -32601
  | .invalidParams _ => -32602

/-- The wording of an error. -/
def message : RequestError → String
  | .notStarted => "Server not initialized"
  | .invalidRequest => "Invalid request"
  | .methodNotFound => "Method not found"
  | .invalidParams fault => fault.message

end RequestError

/-- What the client hears in answer to a message. -/
inductive Answer where
  /-- Nothing. -/
  | none
  | result (value : Json)
  | error (cause : RequestError)
  /-- The server has exited and takes no more messages. -/
  | gone
deriving Inhabited

/-! ### What the server can do -/

/-- The name that the server tells its client. -/
def serverName : String := "mypy-lsp"

/-- The version that the server tells its client. -/
def serverVersion : String := "0.1.0-alpha.1"

/-- The answer to a client that starts the server: whole texts are synchronised, also on
saving, and folders can be added and removed. -/
def startResult : Json :=
  .object [
    ("capabilities", .object [
      ("textDocumentSync", .object [("openClose", .bool true), ("change", .ofNat 1),
        ("save", .object [("includeText", .bool true)])]),
      ("workspace", .object [
        ("workspaceFolders", .object [("supported", .bool true),
          ("changeNotifications", .bool true)])])]),
    ("serverInfo", .object [("name", .string serverName), ("version", .string serverVersion)])]

/-- The notifications that exist and about which this server does nothing. -/
def foreignNotifications : List String :=
  ["textDocument/willSave", "workspace/didCreateFiles", "workspace/didRenameFiles",
    "workspace/didDeleteFiles"]

/-! ### Methods -/

/-- What a method is to the server. -/
inductive Method where
  | start
  | shutdown
  | exit
  /-- The notification that a request is no longer wanted; no answer ever waits. -/
  | cancel
  /-- A notification that it handles. -/
  | handled (kind : NotificationKind)
  /-- A request that it leaves to others, and the shape of its parameters. -/
  | foreignRequest (params : Shape)
  | foreignNotification
  /-- A method that may be there or not, and is never missed. -/
  | spare
  | unknown
deriving Inhabited

/-- The methods of the connection itself. -/
def Method.ofConnection? : String → Option Method
  | "initialize" => some .start
  | "shutdown" => some .shutdown
  | "exit" => some .exit
  | "$/cancelRequest" => some .cancel
  | _ => none

/-- The method of a name. -/
def Method.ofName (name : String) : Method :=
  let handled := NotificationKind.all.find? fun kind => kind.method = name
  ((Method.ofConnection? name).or <| (handled.map .handled).or <|
    (foreignRequests.lookup name).map .foreignRequest).getD <|
    if foreignNotifications.contains name then .foreignNotification
    else if "$/".toList.isPrefixOf name.toList then .spare
    else .unknown

/-! ### Delivering a message -/

/-- A client and the server at work for it. -/
structure Connection where
  phase : Phase := .unstarted
  server : ServerState := {}
deriving Inhabited

/-- What a message leaves: the connection, the answer, the tasks that start, and the messages
sent. -/
structure Delivery where
  connection : Connection
  answer : Answer := .none
  tasks : List LintTask := []
  messages : List ServerMessage := []
deriving Inhabited

/-- Whether messages of the server go out: not before it has started, and not once it has
exited. -/
def Phase.isOpen : Phase → Bool
  | .started | .shutDown => true
  | .unstarted | .exited => false

namespace Connection

/-- An answer, which only a request gets. -/
def answerTo (m : ClientMessage) (answer : Answer) : Answer :=
  if m.isRequest then answer else .none

/-- What a request is told outside the time in which the server works. -/
def refusal : Phase → RequestError
  | .unstarted => .notStarted
  | _ => .invalidRequest

/-- The connection as it is, with an answer. -/
def stay (c : Connection) (answer : Answer) : Delivery :=
  { connection := c, answer }

/-- A step of the server, with the messages that go out in the given phase. -/
def after (phase : Phase) (answer : Answer) (r : StepResult) : Delivery where
  connection := { phase, server := r.state }
  answer := answer
  tasks := r.tasks
  messages := if phase.isOpen then r.messages else []

/-- Starts the server; a start that fails can be tried again. -/
def start (c : Connection) (m : ClientMessage) : Delivery :=
  if c.phase ≠ .unstarted then c.stay (answerTo m (.error .invalidRequest))
  else if ¬ m.isRequest then c.stay .none
  else match m.params with
    | none => c.stay (.error (.invalidParams .missing))
    | some value =>
      match StartParams.ofJson value with
      | .error e => c.stay (.error (.invalidParams (.misshapen e)))
      | .ok p => after .started (.result startResult) (c.server.start p.folders p.root p.options)

/-- Ends the work of the server. -/
def shutdown (c : Connection) (m : ClientMessage) : Delivery :=
  let c := { c with phase := .shutDown }
  match m.params with
  | none => c.stay (answerTo m (.result .null))
  | some value => c.stay (answerTo m (.error (.invalidParams (.unexpected value))))

/-- The notification that a message carries to the server at work. -/
def notification? (c : Connection) (m : ClientMessage) : Option Notification :=
  match Method.ofName m.method with
  | .handled kind =>
    if c.phase = .started ∧ ¬ m.isRequest then m.params.bind kind.read? else none
  | _ => none

/-- A notification that the server handles while it works, which is not a request. -/
def handle (c : Connection) (m : ClientMessage) : Delivery :=
  match c.notification? m with
  | some n => after c.phase .none (c.server.handle n)
  | none => c.stay (answerTo m (.error .invalidRequest))

/-- What is said to a request that exists and is left to others: what is wrong with its
parameters, or else that nobody is there to answer it. -/
def decline (params? : Option Json) (shape : Shape) : RequestError :=
  match params? with
  | none => .invalidParams .missing
  | some params =>
    match shape.read params.canonical with
    | .error e => .invalidParams (.misshapen e)
    | .ok _ => .methodNotFound

/-- Delivers a message of the client. -/
def deliver (c : Connection) (m : ClientMessage) : Delivery :=
  if c.phase = .exited then c.stay .gone
  else match Method.ofName m.method with
    | .start => c.start m
    | .exit => { c with phase := .exited }.stay .none
    | .spare => c.stay .none
    | .cancel => c.stay (answerTo m (.error .invalidRequest))
    | .unknown => c.stay (answerTo m (.error .methodNotFound))
    | method =>
      if c.phase ≠ .started then c.stay (answerTo m (.error (refusal c.phase)))
      else match method with
        | .shutdown => c.shutdown m
        | .handled _ => c.handle m
        | .foreignRequest shape => c.stay (answerTo m (.error (decline m.params shape)))
        | _ => c.stay (answerTo m (.error .invalidRequest))

end Connection

/-! ### What the server sends -/

namespace ServerMessage

/-- The method of a message of the server. -/
def method : ServerMessage → String
  | .publish .. => "textDocument/publishDiagnostics"
  | .log .. => "window/logMessage"
  | .watchConfigFiles => "client/registerCapability"

/-- Whether the server waits for an answer. What the answer is makes no difference. -/
def isRequest : ServerMessage → Bool
  | .watchConfigFiles => true
  | _ => false

/-- The files about whose changes the server wants to be told. -/
def watchedFiles : String := "**/\x7bmypy.ini,setup.cfg\x7d"

/-- The number of a log level in the protocol. -/
def levelNumber : LogLevel → Nat
  | .error => 1
  | .warning => 2
  | .info => 3

/-- The parameters of a message of the server. -/
def params : ServerMessage → Json
  | .publish uri diagnostics version =>
    .object ([("uri", .string uri.text),
      ("diagnostics", .array (diagnostics.map PublishedDiagnostic.toJson))] ++
      (version.map fun n => ("version", Json.ofInt n)).toList)
  | .log level text => .object [("type", .ofNat (levelNumber level)), ("message", .string text)]
  | .watchConfigFiles =>
    .object [("registrations", .array [.object [
      ("id", .string "mypy-lint-config-files"),
      ("method", .string "workspace/didChangeWatchedFiles"),
      ("registerOptions", .object [("watchers", .array [
        .object [("globPattern", .string watchedFiles)]])])]])]

end ServerMessage

end LintHost
