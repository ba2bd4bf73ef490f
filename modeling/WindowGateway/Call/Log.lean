import WindowGateway.Call.Error
import WindowGateway.Telemetry

/-! What a call logs: a sequence of events, each shown as a line with a level, a text and fields,
most with the phase that the call has reached. -/

namespace WindowGateway

inductive Phase
  | received
  | validated
  | decoded
  | folded
  | finalized
  | encoded
  | responded
  | rejected
  | failed
  deriving DecidableEq, Repr

namespace Phase

def all : List Phase :=
  [received, validated, decoded, folded, finalized, encoded, responded, rejected, failed]

def name : Phase → String
  | received => "received"
  | validated => "validated"
  | decoded => "decoded"
  | folded => "folded"
  | finalized => "finalized"
  | encoded => "encoded"
  | responded => "responded"
  | rejected => "rejected"
  | failed => "failed"

end Phase

inductive Event
  | received (bytes : Nat)
  | rejected (error : CallError)
  | validated (framing : Framing)
  | decodedBatch (items : Nat)
  | decodedDocument
  | foldedItem (index keys : Nat)
  | foldedBatch (keys : Nat)
  | finalizedTable (folded emitted : Nat)
  | finalizedBatch (keys : Nat)
  | encoded (bytes : Nat)
  | completed (framing : Framing) (bytes : Nat)
  | failed (error : CallError)
  deriving DecidableEq, Repr

namespace Event

def level : Event → Level
  | foldedItem _ _ => .trace
  | completed _ _ => .info
  | rejected _ | failed _ => .warn
  | received _ | validated _ | decodedBatch _ | decodedDocument | foldedBatch _
  | finalizedTable _ _ | finalizedBatch _ | encoded _ => .debug

def message : Event → String
  | received _ => "received call"
  | rejected _ => "rejected call"
  | validated _ => "validated call"
  | decodedBatch _ => "decoded batch"
  | decodedDocument => "decoded document"
  | foldedItem _ _ => "folded item"
  | foldedBatch _ => "folded batch"
  | finalizedTable _ _ => "finalized state"
  | finalizedBatch _ => "finalized batch"
  | encoded _ => "encoded reply"
  | completed _ _ => "call completed"
  | failed _ => "call failed"

/-- The phase that the call has reached with the event, if it tells one. -/
def phase? : Event → Option Phase
  | received _ => some .received
  | rejected _ => some .rejected
  | validated _ => some .validated
  | decodedBatch _ | decodedDocument => some .decoded
  | foldedItem _ _ | finalizedTable _ _ => none
  | foldedBatch _ => some .folded
  | finalizedBatch _ => some .finalized
  | encoded _ => some .encoded
  | completed _ _ => some .responded
  | failed _ => some .failed

/-- What an event tells besides the phase. -/
def details : Event → List (String × FieldValue)
  | received bytes | encoded bytes => [("bytes", .count bytes)]
  | rejected error | failed error =>
    [("kind", .text error.kind.name), ("error", .text error.message)]
  | validated framing => [("content_type", .text framing.contentType)]
  | decodedBatch items => [("items", .count items)]
  | decodedDocument => []
  | foldedItem index keys => [("index", .count index), ("keys", .count keys)]
  | foldedBatch keys | finalizedBatch keys => [("keys", .count keys)]
  | finalizedTable folded emitted => [("folded", .count folded), ("emitted", .count emitted)]
  | completed framing bytes =>
    [("content_type", .text framing.contentType), ("bytes", .count bytes)]

def fields (e : Event) : List (String × FieldValue) :=
  match e.phase? with
  | some phase => ("phase", .text phase.name) :: e.details
  | none => e.details

def line (e : Event) : LogLine := ⟨e.level, e.message, e.fields⟩

end Event

/-- A computation that logs events and ends in a value or an error. -/
structure Logged (ε α : Type) where
  events : List Event
  result : Except ε α

namespace Logged

variable {ε ε' α β : Type}

def pure (a : α) : Logged ε α := ⟨[], .ok a⟩

/-- The first computation, and then the second on its value. After an error nothing follows. -/
def bind (x : Logged ε α) (f : α → Logged ε β) : Logged ε β :=
  match x.result with
  | .error e => ⟨x.events, .error e⟩
  | .ok a => ⟨x.events ++ (f a).events, (f a).result⟩

instance : Monad (Logged ε) where
  pure := Logged.pure
  bind := Logged.bind

def log (e : Event) : Logged ε Unit := ⟨[e], .ok ()⟩

/-- A computation that logs nothing. -/
def lift (x : Except ε α) : Logged ε α := ⟨[], x⟩

def mapError (x : Logged ε α) (f : ε → ε') : Logged ε' α := ⟨x.events, x.result.mapError f⟩

@[simp] theorem result_pure (a : α) :
    (Pure.pure a : Logged ε α).result = Pure.pure a := rfl

@[simp] theorem result_log (e : Event) : (log e : Logged ε Unit).result = Pure.pure () := rfl

@[simp] theorem result_lift (x : Except ε α) : (lift x).result = x := rfl

@[simp] theorem result_mapError (x : Logged ε α) (f : ε → ε') :
    (x.mapError f).result = x.result.mapError f := rfl

@[simp] theorem result_bind (x : Logged ε α) (f : α → Logged ε β) :
    (x >>= f).result = x.result >>= fun a => (f a).result := by
  show (Logged.bind x f).result = _
  unfold bind
  cases x.result <;> rfl

theorem mk_ok_bind (log : List Event) (a : α) (f : α → Logged ε β) :
    ((⟨log, .ok a⟩ : Logged ε α) >>= f) = ⟨log ++ (f a).events, (f a).result⟩ := rfl

theorem mk_error_bind (log : List Event) (e : ε) (f : α → Logged ε β) :
    ((⟨log, .error e⟩ : Logged ε α) >>= f) = ⟨log, .error e⟩ := rfl

end Logged

end WindowGateway
