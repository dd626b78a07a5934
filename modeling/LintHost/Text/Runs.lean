/-!
# Runs of code points

A property of characters is kept as a table of runs, each given by its first and its last
code point.
-/

namespace LintHost.Text

/-- Whether a code point lies in one of the runs of a table. -/
def inRuns (runs : List (Nat × Nat)) (n : Nat) : Bool :=
  runs.any fun run => run.1 ≤ n && n ≤ run.2

end LintHost.Text
