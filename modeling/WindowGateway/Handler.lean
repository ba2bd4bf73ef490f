import WindowGateway.Fold

/-! Handlers: what answers a call. An aggregator folds a batch of documents and replies with a batch
of records; a mapper turns one document into one document. Before either runs, the content type of
the request is checked. -/

namespace WindowGateway

structure Aggregator where
  accumulate : Accumulate
  finalize : Finalize := .identity

/-- What answers the calls of a gateway. -/
inductive Handler
  | aggregator (a : Aggregator)
  | mapper (map : MapDocument)

/-- Why a call has no reply: an error, or a panic of a hook that nothing caught. -/
inductive Interruption
  | error (e : CallError)
  | panic (p : Panic)
  deriving DecidableEq, Repr

/-- The records for a batch, whatever its content type. -/
def Aggregator.aggregate (a : Aggregator) (headers : Headers) (payload : List UInt8) :
    Logged CallError RecordTable := do
  let items ← Logged.lift ((Wire.decodeCollection payload).mapError .collection)
  Logged.log (.decodedBatch items.length)
  let folded ← fold a.accumulate headers items
  Logged.log (.foldedBatch folded.size)
  let emitted ← finalizeTable a.finalize folded
  Logged.log (.finalizedBatch emitted.size)
  pure emitted

/-- The reply to a batch. The hook's headers cannot replace the content type. -/
def Aggregator.reply (a : Aggregator) (request : Envelope) : Logged Interruption Envelope := do
  let table ← (a.aggregate request.headers request.payload).mapError .error
  let payload := encodeRecords table
  Logged.log (.encoded payload.length)
  let headers ← Logged.lift ((a.finalize.replyHeaders .empty).mapError .panic)
  pure ⟨headers.insert Headers.contentType Framing.batch.contentType, payload⟩

def mapReply (map : MapDocument) (request : Envelope) : Logged Interruption Envelope := do
  let d ← Logged.lift ((decodeItem 0 request.payload).mapError .error)
  Logged.log .decodedDocument
  let mapped ← Logged.lift ((invoke .map (map request.headers d)).mapError .error)
  let payload := mapped.bytes
  Logged.log (.encoded payload.length)
  pure ⟨OrderedMap.empty.insert Headers.contentType Framing.document.contentType, payload⟩

/-- The media type of a request, which must stand for the expected payload. -/
def checkContentType (headers : Headers) (expected : Framing) : Except CallError MediaType :=
  let found := headers.get? Headers.contentType
  match found.bind MediaType.parse? with
  | some m => if expected.accepts m then .ok m else .error (.contentType found expected)
  | none => .error (.contentType found expected)

namespace Handler

/-- The payload that a handler takes and gives. -/
def framing : Handler → Framing
  | aggregator _ => .batch
  | mapper _ => .document

/-- The reply to a request whose content type has been checked. -/
def reply : Handler → Envelope → Logged Interruption Envelope
  | aggregator a, request => a.reply request
  | mapper map, request => mapReply map request

/-- Answers a call: checks the content type, then lets the handler reply, and logs how it ends. A
panic that nothing caught ends the call at once. -/
def answer (h : Handler) (request : Envelope) : Logged Interruption Envelope :=
  let start : List Event := [.received request.payload.length]
  match checkContentType request.headers h.framing with
  | .error e => ⟨start ++ [.rejected e], .error (.error e)⟩
  | .ok _ =>
    let start := start ++ [.validated h.framing]
    let run := h.reply request
    match run.result with
    | .ok reply => ⟨start ++ run.events ++ [.completed h.framing reply.payload.length], .ok reply⟩
    | .error (.error e) => ⟨start ++ run.events ++ [.failed e], .error (.error e)⟩
    | .error (.panic p) => ⟨start ++ run.events, .error (.panic p)⟩

end Handler

/-- The gateway's answer to a remote call: a reply, or the status of the error. A call that a panic
ended has a status of its own, which tells no kind of error. -/
def requestReply (h : Handler) (request : Envelope) : Except Status Envelope :=
  match (h.answer request).result with
  | .ok reply => .ok reply
  | .error (.error e) => .error e.status
  | .error (.panic _) => .error ⟨.internal, "request handling aborted", none⟩

/-- How a gateway shows itself in messages. -/
def describeGateway (h : Handler) : String :=
  "GrpcGateway \x7b content_type: " ++ Text.quoted h.framing.contentType ++ " \x7d"

end WindowGateway
