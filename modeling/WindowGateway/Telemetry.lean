import WindowGateway.Failure

/-! The log of the program: lines with a level, a text and named values. A filter decides which of
them are shown, and the log is set up once. -/

namespace WindowGateway

/-- Levels of events, the finest first. -/
inductive Level
  | trace
  | debug
  | info
  | warn
  deriving DecidableEq, Repr

namespace Level

def rank : Level → Nat
  | trace => 0
  | debug => 1
  | info => 2
  | warn => 3

def name : Level → String
  | trace => "TRACE"
  | debug => "DEBUG"
  | info => "INFO"
  | warn => "WARN"

end Level

inductive FieldValue
  | text (s : String)
  | count (n : Nat)
  deriving DecidableEq, Repr

def FieldValue.toText : FieldValue → String
  | text s => s
  | count n => toString n

/-- What the log shows of an event. -/
structure LogLine where
  level : Level
  message : String
  fields : List (String × FieldValue)
  deriving DecidableEq, Repr

namespace Telemetry

/-- The filter, unless another one is asked for. -/
def defaultFilter : String := "udf_gateway=info,tonic=warn"

/-- Sets up the log, if that has not been done yet. -/
def install (installed : Bool) : Except Failure Unit :=
  if installed then .error ⟨"failed to install tracing subscriber", []⟩ else .ok ()

end Telemetry

end WindowGateway
