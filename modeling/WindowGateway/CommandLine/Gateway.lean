import WindowGateway.Client.Send
import WindowGateway.CommandLine.Command
import WindowGateway.Settings.Daemon

/-! The command line of the gateway: flags for its settings, and a command that sends documents to a
gateway that runs. -/

namespace WindowGateway.CommandLine

open Client (SendOptions)
open Settings (DaemonFlags)

/-- What a user can ask for by arguments: a gateway with some settings, or a sending. -/
structure Request where
  daemon : DaemonFlags
  send : Option SendOptions
  deriving DecidableEq, Repr

/-- A port, read as an integer of 64 bits before its range is looked at. -/
def readPort (value : String) : Except ValueFault UInt16 :=
  match Text.readInt64 value with
  | .error fault => .error (.integer fault)
  | .ok n => if 0 ≤ n ∧ n < 65536 then .ok (.ofNat n.toNat) else .error (.outOfRange n 65535)

def readCount (value : String) : Except ValueFault UInt64 :=
  match Text.readNatural 0xffffffffffffffff value with
  | .error fault => .error (.integer fault)
  | .ok n => .ok (.ofNat n)

def gateway : Command DaemonFlags where
  page := .gateway
  hasVersion := true
  subcommands := ["send", "help"]
  flags :=
    let d := Settings.Daemon.default
    [{ name := "host",
       help := "Interface to bind the gRPC endpoint to",
       default := some d.host,
       set := fun value flags => .ok { flags with host := some value } },
     { name := "port",
       help := "Port to bind the gRPC endpoint to",
       default := some (toString d.port.toNat),
       set := fun value flags => (readPort value).map fun p => { flags with port := some p } },
     { name := "udf",
       help :=
        "Built-in UDF to serve (`team-score`, `user-score`, `fraud-detection` or `uppercase`)",
       default := some d.udf,
       set := fun value flags => .ok { flags with udf := some value } },
     { name := "fraud-threshold",
       help := "Authorization count a card must exceed before `fraud-detection` reports it",
       default := some (toString d.fraudThreshold.toNat),
       set := fun value flags =>
        (readCount value).map fun n => { flags with fraudThreshold := some n } }]

def send : Command SendOptions where
  page := .send
  flags :=
    [{ name := "target",
       help := "Gateway URI, for example `http://127.0.0.1:55554`",
       set := fun value o => .ok { o with target := some value } },
     { name := "input",
       help := "File of JSON documents, one per line. Reads stdin when omitted",
       set := fun value o => .ok { o with input := some value } },
     { name := "content-type",
       help := "`multipart/json` sends one batch, `application/json` a single document",
       set := fun value o => .ok { o with contentType := some value } },
     { name := "window-start",
       help := "Opaque value forwarded as the `windowStartTime` header",
       set := fun value o => .ok { o with windowStart := some value } },
     { name := "window-end",
       help := "Opaque value forwarded as the `windowEndTime` header",
       set := fun value o => .ok { o with windowEnd := some value } }]

/-- The answer to the word for help with the words after it. -/
def helpFor : List String → UsageError
  | [] => .help .gateway
  | ["send"] => .help .send
  | ["help"] => .help .help
  | "send" :: word :: _ | "help" :: word :: _ => .unknownSubcommand word
  | word :: _ => .unknownSubcommand word

def parseSend (args : List String) : Except UsageError SendOptions := do
  match ← send.scan false { settings := {} } args with
  | .finished s | .subcommand _ s _ => pure (← s.resolve).settings

def parse (args : List String) : Except UsageError Request := do
  match ← gateway.scan false { settings := {} } args with
  | .finished s => pure ⟨(← s.resolve).settings, none⟩
  | .subcommand name s rest =>
    if name = "help" then throw (helpFor rest)
    let options ← parseSend rest
    pure ⟨(← s.resolve).settings, some options⟩

end WindowGateway.CommandLine
