import LintHost.Invocation

/-!
# Checkers

Whatever runs a plan is a checker: from its own state, the file system and the plan it gives
what came of the process and its state afterwards. `Checker.check` is one whole run with it.

Two checkers stand in for real ones and record the calls made to them: a `Script` replays
results from a list, and a `Printer` prints the same whatever it is given. A recorded call
holds the text of the shadow file as it is while the checker runs, which is what the checker
would have seen.
-/

namespace LintHost

/-- A checker with its own state. -/
abbrev Checker (σ : Type) :=
  σ → FileSystem → Plan → Except SystemError RawResult × σ

/-- One whole run: prepared, carried out and concluded. Without a prepared run the checker
is not called. -/
def Checker.check {σ : Type} (checker : Checker σ) (state : σ) (fs : FileSystem)
    (target : CheckTarget) (config : EffectiveConfig) (workingDirectory : Path) :
    Except InvokeError InvocationRecord × FileSystem × σ :=
  match Invocation.prepare fs target config workingDirectory with
  | .error e => (.error e, fs, state)
  | .ok (fs, invocation) =>
    let (result, state) := checker state fs invocation.plan
    let (outcome, fs) := invocation.conclude fs result
    (outcome, fs, state)

/-! ### Starting a process -/

/-- Whether a NUL stands in one of the texts that a process is given; it could not be told
from their ends. -/
def Plan.holdsNul (plan : Plan) : Bool :=
  (plan.executable :: plan.workingDirectory.text :: plan.arguments ++
    plan.environment.flatMap fun (name, value) => [name, value]).any fun text =>
      text.toList.contains '\x00'

/-- The checker as a process of the system, which does not start with a NUL in its texts. -/
def Checker.asProcess {σ : Type} (checker : Checker σ) : Checker σ := fun state fs plan =>
  if plan.holdsNul then (.error .nulInCommand, state) else checker state fs plan

/-! ### Calls -/

/-- A call of the checker. -/
structure Call where
  plan : Plan
  /-- The text of the shadow file during the call. -/
  shadowContent : Option String
deriving DecidableEq, Inhabited

namespace Call

/-- The shadow file that a plan names: two places after the option for it. -/
def shadowPath? (plan : Plan) : Option Path :=
  match plan.arguments.dropWhile (· ≠ "--shadow-file") with
  | _ :: _ :: shadow :: _ => some ⟨shadow⟩
  | _ => none

/-- The call that a plan makes in a file system. -/
def ofPlan (fs : FileSystem) (plan : Plan) : Call where
  plan := plan
  shadowContent := (shadowPath? plan).bind fun path => (fs.readText path).toOption

end Call

/-! ### Scripts -/

/-- Results to replay, and the calls made so far. -/
structure Script where
  responses : List (Except SystemError RawResult) := []
  calls : List Call := []
deriving Inhabited

/-- Records the call and replays the next result; an empty script prints nothing. -/
def Script.run : Checker Script := fun script fs plan =>
  let calls := script.calls ++ [Call.ofPlan fs plan]
  match script.responses with
  | [] => (.ok {}, { script with calls })
  | response :: responses => (response, { responses, calls })

/-! ### Printers -/

/-- The executables that there are, what each of them prints, and the calls made so far. -/
structure Printer where
  executables : List String := []
  stdout : String := ""
  stderr : String := ""
  calls : List Call := []
deriving Inhabited

/-- Records the call and prints. An executable that is not there, and one that should work in
a directory that is not there, does not start, and there is no call. -/
def Printer.run : Checker Printer := .asProcess fun printer fs plan =>
  if printer.executables.contains plan.executable ∧ fs.isDirectory plan.workingDirectory then
    (.ok { exitCode := some 1, stdout := printer.stdout, stderr := printer.stderr },
      { printer with calls := printer.calls ++ [Call.ofPlan fs plan] })
  else (.error .notFound, printer)

end LintHost
