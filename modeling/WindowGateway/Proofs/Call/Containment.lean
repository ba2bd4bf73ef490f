import WindowGateway.Proofs.Call.Outcome

/-! What a hook that does not return can do to a call. The hooks that fold, release and map are run
where their failures and panics become errors of the call. The hook that writes headers is not, and
its panic is the one thing that ends a call without a kind of error. -/

namespace WindowGateway

open Wire (decodeCollection)

/-! ### Hooks that do not return -/

theorem foldFrom_append (hook : Accumulate) (headers : Headers) (index : Nat) (table : RecordTable)
    (before after : List (List UInt8)) :
    (foldFrom hook headers index table (before ++ after)).result =
      (do
        let next ← (foldFrom hook headers index table before).result
        (foldFrom hook headers (index + before.length) next after).result) := by
  induction before generalizing index table with
  | nil => rfl
  | cons bytes before ih =>
    rw [List.cons_append, foldFrom_cons_result, foldFrom_cons_result, bind_assoc]
    refine bind_congr fun next => ?_
    rw [ih, List.length_cons, Nat.add_assoc, Nat.add_comm 1]

/-- Some hook that the call of a handler runs fails or panics. -/
inductive HookBreaks : Handler → Envelope → Prop
  | accumulate {a : Aggregator} {request : Envelope} {before after : List (List UInt8)}
      {bytes : List UInt8} {table : RecordTable} {d : Json.Document} {fault : HookFault}
      (ha : request.headers.Announce .batch)
      (hd : decodeCollection request.payload = .ok (before ++ bytes :: after))
      (hf : (fold a.accumulate request.headers before).result = .ok table)
      (hi : decodeItem before.length bytes = .ok d)
      (hb : (a.accumulate.run request.headers d table).1 = .error fault) :
    HookBreaks (.aggregator a) request
  | release {a : Aggregator} {request : Envelope} {items : List (List UInt8)}
      {folded : RecordTable} {fault : HookFault} (ha : request.headers.Announce .batch)
      (hd : decodeCollection request.payload = .ok items)
      (hf : (fold a.accumulate request.headers items).result = .ok folded)
      (hb : a.finalize.release folded = .error fault) :
    HookBreaks (.aggregator a) request
  | replyHeaders {a : Aggregator} {request : Envelope} {emitted : RecordTable} {panic : Panic}
      (ha : request.headers.Announce .batch)
      (he : (a.aggregate request.headers request.payload).result = .ok emitted)
      (hb : a.finalize.replyHeaders .empty = .error panic) :
    HookBreaks (.aggregator a) request
  | map {map : MapDocument} {request : Envelope} {d : Json.Document} {fault : HookFault}
      (ha : request.headers.Announce .document) (hi : decodeItem 0 request.payload = .ok d)
      (hb : map request.headers d = .error fault) :
    HookBreaks (.mapper map) request

/-- The call comes to the point where the reply gets its headers, and the hook that writes them
panics. -/
def HeadersPanic : Handler → Envelope → Prop
  | .aggregator a, request =>
    request.headers.Announce .batch ∧
      (∃ emitted, (a.aggregate request.headers request.payload).result = .ok emitted) ∧
      ∃ panic, a.finalize.replyHeaders .empty = .error panic
  | .mapper _, _ => False

/-! ### Statuses -/

/-- The status of a call that a panic ended. -/
def abortedStatus : Status := ⟨.internal, "request handling aborted", none⟩

theorem ofStatus?_status (e : CallError) : ErrorKind.ofStatus? e.status = some e.kind := by
  have hkind : ∀ kind : ErrorKind,
      ErrorKind.ofStatus? ⟨kind.code, e.message, some (Text.bytes kind.name)⟩ = some kind := by
    intro kind
    cases kind <;> rfl
  exact hkind e.kind

/-- What the gateway promises of a call, whatever its hooks do: a reply with the content type of the
handler, or the status of an error, whose kind can be told from it; and where a hook broke, that
error is one of hooks. -/
structure Contained (h : Handler) (request : Envelope) : Prop where
  answered : ∀ reply, requestReply h request = .ok reply →
    reply.headers.get? Headers.contentType = some h.framing.contentType
  told : ∀ s, requestReply h request = .error s →
    ∃ e : CallError, s = e.status ∧ ErrorKind.ofStatus? s = some e.kind ∧
      s.code = if e.kind = .hook then .internal else .invalidArgument
  broken : HookBreaks h request → ∃ s, requestReply h request = .error s ∧ s.code = .internal ∧
    ErrorKind.ofStatus? s = some .hook

theorem requestReply_of_error {h : Handler} {request : Envelope} {e : CallError}
    (he : (h.answer request).result = .error (.error e)) :
    requestReply h request = .error e.status := by
  rw [requestReply, he]

theorem requestReply_of_headersPanic {h : Handler} {request : Envelope}
    (hp : HeadersPanic h request) : requestReply h request = .error abortedStatus := by
  cases h with
  | aggregator a =>
    obtain ⟨ha, ⟨emitted, he⟩, panic, hh⟩ := hp
    rw [requestReply, answer_of_panic ha he hh]
    rfl
  | mapper map => exact hp.elim

/-! ### Where each hook ends the call -/

section Hooks

variable {request : Envelope}

theorem mapReply_undecodable {map : MapDocument} {e : CallError}
    (hi : decodeItem 0 request.payload = .error e) :
    (mapReply map request).result = .error (.error e) := by
  simp only [mapReply, Logged.result_bind, Logged.result_lift, hi]
  rfl

theorem mapReply_decoded (map : MapDocument) {d : Json.Document}
    (hi : decodeItem 0 request.payload = .ok d) :
    (mapReply map request).result =
      match map request.headers d with
      | .error fault => .error (.error (.hook .map fault.text))
      | .ok mapped =>
        .ok ⟨OrderedMap.empty.insert Headers.contentType Framing.document.contentType,
          mapped.bytes⟩ := by
  have hlift : (decodeItem 0 request.payload).mapError Interruption.error = .ok d := by
    rw [hi]
    rfl
  simp only [mapReply, Logged.result_bind, Logged.result_lift, Logged.result_log,
    Logged.result_pure, pure_bind, hlift]
  show (invoke .map (map request.headers d)).mapError Interruption.error >>= _ = _
  cases map request.headers d <;> rfl

theorem foldItem_broken {hook : Accumulate} {headers : Headers} {index : Nat}
    {table : RecordTable} {bytes : List UInt8} {d : Json.Document} {fault : HookFault}
    (hi : decodeItem index bytes = .ok d) (hb : (hook.run headers d table).1 = .error fault) :
    foldItem hook headers index table bytes = .error (.hook .accumulate fault.text) := by
  rcases hrun : hook.run headers d table with ⟨result, next⟩
  rw [hrun] at hb
  subst hb
  simp only [foldItem, hi, hrun]
  rfl

theorem fold_broken {hook : Accumulate} {headers : Headers} {before after : List (List UInt8)}
    {bytes : List UInt8} {table : RecordTable} {d : Json.Document} {fault : HookFault}
    (hf : (fold hook headers before).result = .ok table)
    (hi : decodeItem before.length bytes = .ok d)
    (hb : (hook.run headers d table).1 = .error fault) :
    (fold hook headers (before ++ bytes :: after)).result =
      .error (.hook .accumulate fault.text) := by
  have hitem := foldItem_broken hi hb
  rw [fold] at hf ⊢
  rw [foldFrom_append, hf]
  show (foldFrom hook headers (0 + before.length) table (bytes :: after)).result = _
  rw [Nat.zero_add, foldFrom_cons_result, hitem]
  rfl

theorem answer_broken {h : Handler} (hb : HookBreaks h request) (hp : ¬HeadersPanic h request) :
    ∃ stage text, (h.answer request).result = .error (.error (.hook stage text)) := by
  cases hb with
  | accumulate ha hd hf hi hb =>
    have hstage := aggregate_unfolded hd (fold_broken hf hi hb)
    exact ⟨_, _, answer_of_aggregate_error ha hstage⟩
  | release ha hd hf hb =>
    have hstage := aggregate_folded hd hf
    rw [hb] at hstage
    exact ⟨_, _, answer_of_aggregate_error ha hstage⟩
  | replyHeaders ha he hb => exact absurd ⟨ha, ⟨_, he⟩, _, hb⟩ hp
  | @map map _ _ _ ha hi hb =>
    have hreply := mapReply_decoded map hi
    rw [hb] at hreply
    exact ⟨_, _, (answer_accepted (h := .mapper map) ha).trans hreply⟩

theorem headersPanic_of_answer {h : Handler} {panic : Panic}
    (hp : (h.answer request).result = .error (.panic panic)) : HeadersPanic h request := by
  by_cases ha : request.headers.Announce h.framing
  · cases h with
    | aggregator a =>
      have hending := ending_answer a request
      rw [hp] at hending
      cases hending with
      | aborted _ he hh => exact ⟨ha, ⟨_, he⟩, panic, hh⟩
    | mapper map =>
      rw [answer_accepted ha, Handler.reply] at hp
      cases hi : decodeItem 0 request.payload with
      | error e =>
        rw [mapReply_undecodable hi] at hp
        cases hp
      | ok d =>
        rw [mapReply_decoded map hi] at hp
        split at hp <;> cases hp
  · rw [answer_rejected ha] at hp
    cases hp

theorem contentType_of_answer {h : Handler} {reply : Envelope}
    (hok : (h.answer request).result = .ok reply) :
    reply.headers.get? Headers.contentType = some h.framing.contentType := by
  by_cases ha : request.headers.Announce h.framing
  · cases h with
    | aggregator a =>
      obtain ⟨_, _, _, _, rfl⟩ := (answer_eq_ok_iff ha).mp hok
      exact OrderedMap.get?_insert_self ..
    | mapper map =>
      rw [answer_accepted ha, Handler.reply] at hok
      cases hi : decodeItem 0 request.payload with
      | error e =>
        rw [mapReply_undecodable hi] at hok
        cases hok
      | ok d =>
        rw [mapReply_decoded map hi] at hok
        split at hok
        · cases hok
        · cases hok
          exact OrderedMap.get?_insert_self ..
  · rw [answer_rejected ha] at hok
    cases hok

end Hooks

/-! ### Containment -/

theorem status_code (e : CallError) :
    e.status.code = if e.kind = .hook then .internal else .invalidArgument := by
  cases e <;> rfl

theorem contained_of_not_headersPanic {h : Handler} {request : Envelope}
    (hp : ¬HeadersPanic h request) : Contained h request where
  answered reply hok := by
    rw [requestReply] at hok
    split at hok
    · next hanswer =>
      cases hok
      exact contentType_of_answer hanswer
    · cases hok
    · cases hok
  told s hs := by
    rw [requestReply] at hs
    split at hs
    · cases hs
    · next e _ =>
      cases hs
      exact ⟨e, rfl, ofStatus?_status e, status_code e⟩
    · next hanswer => exact absurd (headersPanic_of_answer hanswer) hp
  broken hb := by
    obtain ⟨stage, text, hanswer⟩ := answer_broken hb hp
    exact ⟨_, requestReply_of_error hanswer, rfl, ofStatus?_status _⟩

theorem ofStatus?_aborted : ErrorKind.ofStatus? abortedStatus = none := rfl

theorem not_contained_of_headersPanic {h : Handler} {request : Envelope}
    (hp : HeadersPanic h request) : ¬Contained h request := by
  intro hc
  obtain ⟨e, _, hkind, _⟩ := hc.told _ (requestReply_of_headersPanic hp)
  rw [ofStatus?_aborted] at hkind
  cases hkind

/-- The gateway keeps its promise for a call except in one case, in which it tells the caller that
the call was aborted and no kind of error: the hook that writes headers panics. -/
theorem contained_iff (h : Handler) (request : Envelope) :
    (Contained h request ↔ ¬HeadersPanic h request) ∧
      (HeadersPanic h request → requestReply h request = .error abortedStatus ∧
        ErrorKind.ofStatus? abortedStatus = none) := by
  refine ⟨⟨fun hc hp => ?_, contained_of_not_headersPanic⟩, fun hp => ?_⟩
  · exact not_contained_of_headersPanic hp hc
  · exact ⟨requestReply_of_headersPanic hp, ofStatus?_aborted⟩

/-- An empty batch, released by hooks of which the one for headers panics. -/
theorem not_contained_of_panicking_headers :
    let a : Aggregator :=
      { accumulate := Builtin.teamScore.accumulate,
        finalize :=
          { release := fun table => .ok table, replyHeaders := fun _ => .error ⟨some "boom"⟩ } }
    let request : Envelope :=
      ⟨OrderedMap.empty.insert Headers.contentType "multipart/json", []⟩
    requestReply (.aggregator a) request = .error abortedStatus ∧
      HookBreaks (.aggregator a) request ∧ ¬Contained (.aggregator a) request := by
  intro a request
  have ha : request.headers.Announce .batch := announce_contentType .empty .batch
  have he : (a.aggregate request.headers request.payload).result = .ok .empty := rfl
  have hp : HeadersPanic (.aggregator a) request := ⟨ha, ⟨_, he⟩, _, rfl⟩
  exact ⟨requestReply_of_headersPanic hp, .replyHeaders ha he rfl,
    not_contained_of_headersPanic hp⟩

end WindowGateway
