import WindowGateway.Address.Bind
import WindowGateway.CommandLine.Help
import WindowGateway.Settings.Send
import WindowGateway.Udf

/-! The program: what its arguments, its environment and its settings file make it do. Everything
that it learns from outside is a parameter, so that a run is a function of it. -/

namespace WindowGateway.Program

open Address (SocketAddress)
open Client (SendOptions Service)
open CommandLine (UsageError)
open Json (Document)

structure Start where
  arguments : List String := []
  environment : List (String × String) := []
  settingsFile : Option String := none

/-- What surrounds the program: names, files, standard input, and what answers at an address. -/
structure World where
  resolver : Address.Resolver := Address.numericNames
  fileText : String → Except String String :=
    fun _ => .error "No such file or directory (os error 2)"
  standardInput : Except String String := .ok ""
  connect : String → Option Service := fun _ => none

inductive StartFault
  | usage (e : UsageError)
  | settings
  deriving DecidableEq, Repr

def StartFault.failure : StartFault → Failure
  | usage e => ⟨e.message, []⟩
  | settings => ⟨"failed to load configuration", []⟩

/-- The settings of the gateway, and the flags of a sending if one is asked for. -/
structure Resolved where
  daemon : Settings.Daemon
  send : Option SendOptions
  deriving DecidableEq, Repr

/-- Reads the arguments and, unless they ask for a sending, all settings of the gateway. -/
def resolve (start : Start) : Except StartFault Resolved := do
  let request ← (CommandLine.parse start.arguments).mapError .usage
  match request.send with
  | some flags => pure ⟨request.daemon.overlay .default, some flags⟩
  | none =>
    match Settings.Daemon.load request.daemon start.environment start.settingsFile with
    | none => .error .settings
    | some daemon => pure ⟨daemon, none⟩

/-- A gateway that is ready to listen. -/
structure Gateway where
  address : SocketAddress
  udf : Udf
  threshold : Nat
  deriving DecidableEq, Repr

def Gateway.handler (g : Gateway) : Handler := g.udf.handler g.threshold

/-- What is said when the gateway listens, without the port. -/
def listeningOn (x : Address.IpAddress) : String := "udf-gateway listening on " ++ x.hostText

def Gateway.announcement (g : Gateway) : String := "udf-gateway listening on " ++ g.address.text

/-- The gateway that settings describe. The address is looked at before the function. -/
def prepare (resolver : Address.Resolver) (d : Settings.Daemon) : Except Failure Gateway :=
  match Address.bindAddress? resolver d.host d.port with
  | none => .error ⟨Address.invalidMessage d.host d.port, []⟩
  | some address =>
    match Udf.ofName? d.udf with
    | none => .error ⟨Udf.unknownMessage d.udf, []⟩
    | some udf => .ok ⟨address, udf, d.fraudThreshold.toNat⟩

/-- The text to send: that of a file, or standard input if no file is named. -/
def readInput (w : World) : Option String → Except Failure String
  | none => w.standardInput.mapError fun cause => ⟨"failed to read stdin", [cause]⟩
  | some path => (w.fileText path).mapError fun cause => ⟨s!"failed to read '{path}'", [cause]⟩

inductive SendingFault
  | settings
  | failed (f : Failure)
  deriving DecidableEq, Repr

/-- A sending: the settings come together first, then the input is read, then it is sent. -/
def runSend (w : World) (start : Start) (flags : SendOptions) :
    Except SendingFault (List Document) :=
  match Settings.loadSend flags start.environment start.settingsFile with
  | none => .error .settings
  | some options =>
    match readInput w options.input with
    | .error f => .error (.failed f)
    | .ok input => (Client.send w.connect options input).mapError fun e => .failed e.failure

inductive Outcome
  | serving (g : Gateway)
  | printed (documents : List Document)

def run (w : World) (start : Start) : Except Failure Outcome :=
  match resolve start with
  | .error e => .error e.failure
  | .ok ⟨_, some flags⟩ =>
    match runSend w start flags with
    | .error .settings => .error StartFault.settings.failure
    | .error (.failed f) => .error f
    | .ok documents => .ok (.printed documents)
  | .ok ⟨daemon, none⟩ => (prepare w.resolver daemon).map .serving

end WindowGateway.Program
