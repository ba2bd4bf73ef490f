import WindowGateway.Handler

/-! Calls in flight. A gateway serves all its calls by one handler, and nothing else is common to
them. A call comes to its answer stage by stage, and between two of its stages those of other calls
may come, in whatever order. -/

namespace WindowGateway

/-- How far a call has come, with what its stages have left for those that follow. -/
inductive Progress : Handler → Type
  | received {h : Handler} : Progress h
  | validated {h : Handler} : Progress h
  | folding {a : Aggregator} (done : Nat) (table : RecordTable) (rest : List (List UInt8)) :
    Progress (.aggregator a)
  | released {a : Aggregator} (emitted : RecordTable) : Progress (.aggregator a)
  | decoded {map : MapDocument} (d : Json.Document) : Progress (.mapper map)
  | mapped {map : MapDocument} (d : Json.Document) : Progress (.mapper map)

/-- How a call ends. -/
abbrev Answer := Except Interruption Envelope

/-- What one stage of a call comes to. -/
inductive Turn (h : Handler)
  | goesOn (p : Progress h)
  | ends (answer : Answer)

/-- A stage whose value is for the next, and whose error ends the call. -/
def Turn.ofExcept {h : Handler} {α : Type} (x : Except CallError α) (next : α → Progress h) :
    Turn h :=
  match x with
  | .ok a => .goesOn (next a)
  | .error e => .ends (.error (.error e))

/-- The next stage of a call. One item of a batch is folded at a time. -/
def advance (request : Envelope) : {h : Handler} → Progress h → Turn h
  | h, .received => .ofExcept (checkContentType request.headers h.framing) fun _ => .validated
  | .aggregator _, .validated =>
    .ofExcept ((Wire.decodeCollection request.payload).mapError .collection) (.folding 0 .empty)
  | .mapper _, .validated => .ofExcept (decodeItem 0 request.payload) .decoded
  | .aggregator a, .folding done table (bytes :: rest) =>
    .ofExcept (foldItem a.accumulate request.headers done table bytes) fun table =>
      .folding (done + 1) table rest
  | .aggregator a, .folding _ table [] =>
    .ofExcept (invoke .finalize (a.finalize.release table)) .released
  | .aggregator a, .released emitted =>
    match a.finalize.replyHeaders .empty with
    | .error p => .ends (.error (.panic p))
    | .ok added =>
      .ends (.ok ⟨added.insert Headers.contentType Framing.batch.contentType,
        encodeRecords emitted⟩)
  | .mapper map, .decoded d => .ofExcept (invoke .map (map request.headers d)) .mapped
  | .mapper _, .mapped d =>
    .ends (.ok ⟨OrderedMap.empty.insert Headers.contentType Framing.document.contentType, d.bytes⟩)

/-- What a gateway knows of a call. -/
inductive Slot (h : Handler)
  | free
  | inFlight (request : Envelope) (progress : Progress h)
  | answered

/-- One step of a gateway: it accepts a request as a call, or takes a call one stage further. -/
inductive Act
  | accept (call : Nat) (request : Envelope)
  | advance (call : Nat)

def Act.call : Act → Nat
  | accept call _ | advance call => call

/-- The calls of a gateway, and the answers that it has sent, the first of them first. -/
structure Traffic (h : Handler) where
  slot : Nat → Slot h
  sent : List (Nat × Answer)

namespace Traffic

variable {h : Handler}

def idle : Traffic h := ⟨fun _ => .free, []⟩

def set (t : Traffic h) (call : Nat) (slot : Slot h) : Traffic h :=
  { t with slot := fun n => if n = call then slot else t.slot n }

def send (t : Traffic h) (call : Nat) (answer : Answer) : Traffic h :=
  { t with sent := t.sent ++ [(call, answer)] }

/-- The traffic after an act. A call is accepted once, and only a call in flight goes further. -/
def step (t : Traffic h) : Act → Traffic h
  | .accept call request =>
    match t.slot call with
    | .free => t.set call (.inFlight request .received)
    | _ => t
  | .advance call =>
    match t.slot call with
    | .inFlight request p =>
      match advance request p with
      | .goesOn next => t.set call (.inFlight request next)
      | .ends answer => (t.set call .answered).send call answer
    | _ => t

/-- The traffic after a schedule of acts, from a gateway without calls. -/
def run (h : Handler) (acts : List Act) : Traffic h := acts.foldl step idle

/-- The answers that were sent to a call. -/
def answersTo (t : Traffic h) (call : Nat) : List Answer :=
  t.sent.filterMap fun (n, answer) => if n = call then some answer else none

end Traffic

end WindowGateway
