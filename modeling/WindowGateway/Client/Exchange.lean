import WindowGateway.Call.Error
import WindowGateway.Failure
import WindowGateway.Headers
import WindowGateway.Json.Parse
import WindowGateway.Json.Render
import WindowGateway.Wire.Collection

/-! Requests from documents, and documents from replies. A batch goes into one request; documents
sent singly go into one request each. -/

namespace WindowGateway.Client

open Json (Document ParseError)

inductive FramingFault
  | notMediaType (value : String)
  | unsupported (value : String)
  deriving DecidableEq, Repr

def FramingFault.failure : FramingFault → Failure
  | notMediaType value => ⟨s!"invalid content type '{value}'", [MediaType.invalidMessage value]⟩
  | unsupported value => ⟨s!"unsupported content type '{value}'", []⟩

def framingOf (value : String) : Except FramingFault Framing :=
  match MediaType.parse? value with
  | none => .error (.notMediaType value)
  | some m =>
    match Framing.ofMediaType? m with
    | none => .error (.unsupported value)
    | some framing => .ok framing

/-- The framing that a user asks for: a batch, unless a content type says otherwise. -/
def requestedFraming : Option String → Except FramingFault Framing
  | none => .ok .batch
  | some value => framingOf value

/-- The requests that carry documents, each with the given headers and the content type. -/
def buildRequests (documents : List Document) (framing : Framing) (headers : Headers) :
    List Envelope :=
  let headers := headers.insert Headers.contentType framing.contentType
  match framing with
  | .batch => [⟨headers, Wire.encodeCollection (documents.map Document.bytes)⟩]
  | .document => documents.map fun d => ⟨headers, d.bytes⟩

inductive ReplyFault
  | noContentType
  | framing (fault : FramingFault)
  | collection (error : Wire.DecodeError)
  | item (index : Nat) (error : ParseError)
  | document (error : ParseError)
  deriving DecidableEq, Repr

def ReplyFault.failure : ReplyFault → Failure
  | noContentType => ⟨s!"reply has no {Headers.contentType} header", []⟩
  | framing fault => fault.failure
  | collection error => ⟨(CallError.collection error).message, [error.message]⟩
  | item index error => ⟨s!"reply item {index} is not JSON", [error.message]⟩
  | document error => ⟨"reply is not JSON", [error.message]⟩

/-- The documents of items, the first of which has the given index. -/
def itemDocuments : Nat → List (List UInt8) → Except (Nat × ParseError) (List Document)
  | _, [] => .ok []
  | index, item :: items =>
    match Document.parse item with
    | .error e => .error (index, e)
    | .ok d => (itemDocuments (index + 1) items).map (d :: ·)

def batchDocuments (payload : List UInt8) : Except ReplyFault (List Document) :=
  match Wire.decodeCollection payload with
  | .error e => .error (.collection e)
  | .ok items => (itemDocuments 0 items).mapError fun (index, e) => .item index e

/-- The documents that a reply carries, framed as its content type says. -/
def replyDocuments (reply : Envelope) : Except ReplyFault (List Document) :=
  match reply.headers.get? Headers.contentType with
  | none => .error .noContentType
  | some value =>
    match framingOf value with
    | .error fault => .error (.framing fault)
    | .ok .batch => batchDocuments reply.payload
    | .ok .document =>
      match Document.parse reply.payload with
      | .error e => .error (.document e)
      | .ok d => .ok [d]

end WindowGateway.Client
