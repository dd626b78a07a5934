import LintHost.Rendering.JsonArray
import LintHost.Rendering.Terminal

/-!
# The report of a lint

The two forms in which a finished lint is printed, and the whole text of each.
-/

namespace LintHost

/-- The form in which diagnostics are printed. -/
inductive OutputFormat where
  | text
  | json
deriving DecidableEq, Inhabited

/-- The printed report: in text form the diagnostics and a summary, coloured if it goes to a
terminal, in JSON form one array. -/
def renderReport (ds : List Diagnostic) (format : OutputFormat) (isTerminal : Bool) : String :=
  match format with
  | .text =>
    let colors := ColorMode.auto.colors isTerminal
    Terminal.diagnostics colors ds ++
      Terminal.summary colors (ds.countP Diagnostic.isError) (ds.countP Diagnostic.isWarning)
  | .json => ((({} : JsonArray).begin.emitAll ds).finish).written

end LintHost
