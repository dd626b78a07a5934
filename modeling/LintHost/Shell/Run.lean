import LintHost.Checker
import LintHost.Shell.Execution

/-!
# The shell as a checker

`Shell.checker` runs a plan whose executable is the shell or one of its tools; nothing else
can be started. A script sees the files, and what it writes to them is gone when it ends.
-/

namespace LintHost.Shell

/-- How deep commands can be nested, and how often loops can be run. -/
def greatestDepth : Nat := 20000

/-- What every process finds in its environment. -/
def standardEnvironment : List (String × Raw) :=
  [("HOME", "/root"), ("PATH", "/usr/local/sbin:/usr/local/bin:/usr/sbin:/usr/bin:/sbin:/bin")]

/-- The environment of a process that is given some variables. -/
def environmentWith (given : List (String × String)) : List (String × Raw) :=
  let given := given.map fun (name, value) => (name, Raw.ofText value)
  given ++ standardEnvironment.filter fun v => !given.any (·.1 == v.1)

/-- The shell that stands for the process that starts others. -/
def Machine.ofPlan (fs : FileSystem) (directory : Location) (plan : Plan) : Machine where
  world := World.start fs
  directory := directory
  bindings := (environmentWith plan.environment).map fun (name, value) =>
    (name, { value := some value, isExported := true })

/-- What came of a process, by the shell it has left and the reason it stopped. -/
def resultOf (stop : Option Stop) (m : Machine) : RawResult where
  exitCode := match stop with
    | some (.killed _) => none
    | _ => some (m.status % 256)
  stdout := Raw.toText (m.world.channel World.outputChannel)
  stderr := Raw.toText (m.world.channel World.errorChannel)

/-- The result of an action of a shell. -/
def resultOfRun (action : Act Unit) (m : Machine) : RawResult :=
  match (ExceptT.run action).run m with
  | (.ok _, m) => resultOf none m
  | (.error stop, m) => resultOf (some stop) m

/-- Runs a plan whose executable is the shell or one of its tools, in its directory, without
input. -/
def checker : Checker Unit := .asProcess fun _ fs plan =>
  match fs.look plan.workingDirectory, fs.locate plan.workingDirectory with
  | .ok .directory, .ok place =>
    let m := Machine.ofPlan fs place plan
    let name := Raw.ofText plan.executable
    let args := plan.arguments.map Raw.ofText
    let program := if name.toList.contains '/' then programAt? name
      else (m.findProgram? name).map fun _ => name
    match program with
    | none => (.error .notFound, ())
    | some program =>
      match tool? (outputOfScript greatestDepth) program with
      | some tool => (.ok (resultOfRun (do setStatus (← tool name args)) m), ())
      | none => (.ok (resultOfRun (runShell greatestDepth args) (m.start name)), ())
  | .ok _, _ => (.error .notADirectory, ())
  | .error e, _ => (.error e, ())

end LintHost.Shell
