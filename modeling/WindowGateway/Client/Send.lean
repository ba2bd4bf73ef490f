import WindowGateway.Client.Exchange
import WindowGateway.Json.Lines
import WindowGateway.Text.Percent

/-! Sending documents to a gateway. The documents come as JSON lines; the first thing that goes
wrong ends the sending, and then nothing is returned. -/

namespace WindowGateway.Client

open Json (Document)

structure SendOptions where
  target : Option String := none
  input : Option String := none
  contentType : Option String := none
  windowStart : Option String := none
  windowEnd : Option String := none
  deriving DecidableEq, Repr

/-- The address of the gateway if no other is given. -/
def defaultTarget : String := "http://127.0.0.1:55554"

/-- Whether a target is the default address, whatever the path on it. -/
def isDefaultTarget (target : String) : Bool :=
  match target.toList.drop defaultTarget.length with
  | [] => target == defaultTarget
  | c :: _ => defaultTarget.isPrefixOf target && (c == '/' || c == '?')

/-- What answers calls. -/
abbrev Service := Envelope → Except Status Envelope

/-- A status as the caller receives it: escapes in the message are taken for bytes. -/
def arrived (s : Status) : Status :=
  match Text.ofBytes (Text.percentDecode (Text.bytes s.message)) with
  | .ok message => { s with message }
  | .error fault =>
    { s with
      code := .unknown,
      message := s!"Error deserializing status message header: {fault.message}" }

/-- A service at the other end of a connection. -/
def overWire (service : Service) : Service := fun request => (service request).mapError arrived

inductive SendFault
  | line (fault : Json.LineFault)
  | framing (fault : FramingFault)
  | connect (target : String)
  | rejected (status : Status)
  | reply (fault : ReplyFault)
  deriving DecidableEq, Repr

def statusText (s : Status) : String :=
  s!"status: {s.code.name}, message: {Text.quoted s.message}, details: []"

def SendFault.failure : SendFault → Failure
  | line fault => ⟨s!"line {fault.number} is not JSON", [fault.error.message]⟩
  | framing fault => fault.failure
  | connect target => ⟨s!"failed to connect to {target}", []⟩
  | rejected status => ⟨s!"gateway rejected the call: {statusText status}", []⟩
  | reply fault => fault.failure

/-- The documents of all replies to the requests, sent one after the other. -/
def callAll (service : Service) : List Envelope → Except SendFault (List Document)
  | [] => .ok []
  | request :: requests =>
    match service request with
    | .error status => .error (.rejected status)
    | .ok reply =>
      match replyDocuments reply with
      | .error fault => .error (.reply fault)
      | .ok documents => (callAll service requests).map (documents ++ ·)

/-- Sends the documents of a text with the given framing and window to a service. -/
def exchange (service : Service) (framing : Framing) (window : Window) (input : String) :
    Except SendFault (List Document) :=
  match Json.parseLines input with
  | .error fault => .error (.line fault)
  | .ok documents => callAll service (buildRequests documents framing window.headers)

def SendOptions.window (o : SendOptions) : Window := ⟨o.windowStart, o.windowEnd⟩

/-- Sends the documents of a text to what `connect` finds at the target. -/
def send (connect : String → Option Service) (o : SendOptions) (input : String) :
    Except SendFault (List Document) := do
  let documents ← (Json.parseLines input).mapError .line
  let framing ← (requestedFraming o.contentType).mapError .framing
  let target := o.target.getD defaultTarget
  match connect target with
  | none => .error (.connect target)
  | some service => callAll service (buildRequests documents framing o.window.headers)

/-- Finds the gateway of a handler at the default address, and nothing anywhere else. -/
def connectTo (service : Service) (target : String) : Option Service :=
  if isDefaultTarget target then some (overWire service) else none

end WindowGateway.Client
