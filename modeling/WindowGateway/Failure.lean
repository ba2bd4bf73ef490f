/-! Failures as they are shown to a user: what went wrong, and why. -/

namespace WindowGateway

/-- A message and its causes, the nearest first. -/
structure Failure where
  message : String
  causes : List String := []
  deriving DecidableEq, Repr

namespace Failure

/-- The causes, each on a line of its own and numbered from zero. -/
def numbered (causes : List String) : String :=
  String.join (causes.zipIdx.map fun (cause, i) => s!"    {i}: {cause}\n")

/-- The report of a failure: the message, and the causes below it if there are any. -/
def report (f : Failure) : String :=
  s!"Error: {f.message}\n" ++
    match f.causes with
    | [] => ""
    | [cause] => s!"\nCaused by:\n    {cause}\n"
    | causes => s!"\nCaused by:\n{numbered causes}"

end Failure

end WindowGateway
