import WindowGateway.Settings.Environment

/-! The settings of the gateway: where it listens and what it serves. They come from defaults, a
file, the environment and flags, each stronger than the one before. -/

namespace WindowGateway.Settings

structure Daemon where
  host : String
  port : UInt16
  udf : String
  fraudThreshold : UInt64
  deriving DecidableEq, Repr

def Daemon.default : Daemon := ⟨"0.0.0.0", 55554, "team-score", 5⟩

/-- The settings that flags give. -/
structure DaemonFlags where
  host : Option String := none
  port : Option UInt16 := none
  udf : Option String := none
  fraudThreshold : Option UInt64 := none
  deriving DecidableEq, Repr

namespace DaemonFlags

/-- Flags over the defaults. -/
def overlay (flags : DaemonFlags) (d : Daemon) : Daemon :=
  ⟨flags.host.getD d.host, flags.port.getD d.port, flags.udf.getD d.udf,
    flags.fraudThreshold.getD d.fraudThreshold⟩

def layer (flags : DaemonFlags) : Layer :=
  .ofList [("host", flags.host.map .text),
    ("port", flags.port.map fun p => .integer p.toNat),
    ("udf", flags.udf.map .text),
    ("fraud_threshold", flags.fraudThreshold.map fun n => .integer n.toNat)]

end DaemonFlags

def Daemon.layer (d : Daemon) : Layer :=
  DaemonFlags.layer ⟨some d.host, some d.port, some d.udf, some d.fraudThreshold⟩

/-- The settings that layers give, if the values that count are of the right kinds. -/
def Daemon.ofLayers (layers : List Layer) : Option Daemon := do
  let value := effective layers
  let host ← textOf (value "host")
  let port ← naturalOf 65536 (value "port")
  let udf ← textOf (value "udf")
  let threshold ← naturalOf 0x10000000000000000 (value "fraud_threshold")
  pure ⟨host, .ofNat port, udf, .ofNat threshold⟩

/-- The settings of a gateway that is started with flags, an environment and a settings file. -/
def Daemon.load (flags : DaemonFlags) (environment : List (String × String))
    (file : Option String) : Option Daemon := do
  let entries ← readFile file
  Daemon.ofLayers [Daemon.default.layer, .ofEntries entries, .ofEnvironment "UDF_" environment,
    flags.layer]

end WindowGateway.Settings
