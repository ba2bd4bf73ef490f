import WindowGateway.Proofs.Call.Containment

/-! The events of a call. What a call logs is settled by what it does: each stage that it comes to
is told once, with the sizes of what the stage leaves, and an event for the reply or the error ends
the call, unless a panic does. -/

namespace WindowGateway

open Wire (decodeCollection)

/-! ### Items -/

/-- The tables that a fold leaves after its first item, its first two, and so on, as far as items
are folded. -/
def TablesAlong (hook : Accumulate) (headers : Headers) (items : List (List UInt8))
    (tables : List RecordTable) : Prop :=
  ∀ k table, tables[k]? = some table ↔
    k < items.length ∧ (fold hook headers (items.take (k + 1))).result = .ok table

/-- The events of items: the index of each, and the number of records after it. -/
def itemEvents (tables : List RecordTable) : List Event :=
  tables.mapIdx fun index table => .foldedItem index table.size

theorem level_of_mem_itemEvents {tables : List RecordTable} {e : Event}
    (he : e ∈ itemEvents tables) : e.level = .trace := by
  obtain ⟨index, hindex, rfl⟩ := List.mem_mapIdx.mp he
  rfl

section Fold

variable {hook : Accumulate} {headers : Headers} {index : Nat} {table : RecordTable}
  {bytes : List UInt8} {items : List (List UInt8)}

theorem foldFrom_nil : foldFrom hook headers index table [] = ⟨[], .ok table⟩ := rfl

theorem foldFrom_cons_of_error {e : CallError}
    (hitem : foldItem hook headers index table bytes = .error e) :
    foldFrom hook headers index table (bytes :: items) = ⟨[], .error e⟩ := by
  rw [foldFrom, hitem]
  rfl

theorem foldFrom_cons_of_ok {next : RecordTable}
    (hitem : foldItem hook headers index table bytes = .ok next) :
    foldFrom hook headers index table (bytes :: items) =
      ⟨.foldedItem index next.size :: (foldFrom hook headers (index + 1) next items).events,
        (foldFrom hook headers (index + 1) next items).result⟩ := by
  rw [foldFrom, hitem]
  rfl

theorem foldFrom_tables (hook : Accumulate) (headers : Headers) (index : Nat) (table : RecordTable)
    (items : List (List UInt8)) :
    ∃ tables : List RecordTable,
      (foldFrom hook headers index table items).events =
        tables.mapIdx (fun k t => .foldedItem (index + k) t.size) ∧
      (∀ k t, tables[k]? = some t ↔ k < items.length ∧
        (foldFrom hook headers index table (items.take (k + 1))).result = .ok t) ∧
      tables.length ≤ items.length ∧
      (tables.length = items.length ↔
        ∃ folded, (foldFrom hook headers index table items).result = .ok folded) := by
  induction items generalizing index table with
  | nil => exact ⟨[], rfl, by simp, Nat.le_refl _, by simp [foldFrom_nil]⟩
  | cons bytes items ih =>
    cases hitem : foldItem hook headers index table bytes with
    | error e =>
      -- No prefix with this item in it is folded.
      refine ⟨[], ?_, fun k t => ?_, Nat.zero_le _, ?_⟩
      · rw [foldFrom_cons_of_error hitem]
        rfl
      · rw [List.take_succ_cons, foldFrom_cons_of_error hitem]
        simp
      · rw [foldFrom_cons_of_error hitem]
        simp
    | ok next =>
      obtain ⟨tables, hevents, htables, hlength, hall⟩ := ih (index + 1) next
      refine ⟨next :: tables, ?_, fun k t => ?_, Nat.succ_le_succ hlength, ?_⟩
      · rw [foldFrom_cons_of_ok hitem, hevents, List.mapIdx_cons]
        simp only [Nat.add_zero, Nat.add_right_comm, Nat.add_assoc]
      · rw [List.take_succ_cons, foldFrom_cons_of_ok hitem]
        cases k with
        | zero => simp [foldFrom_nil]
        | succ k => simpa using htables k t
      · rw [foldFrom_cons_of_ok hitem, List.length_cons, List.length_cons, Nat.succ_inj, hall]

theorem fold_tables (hook : Accumulate) (headers : Headers) (items : List (List UInt8)) :
    ∃ tables, (fold hook headers items).events = itemEvents tables ∧
      TablesAlong hook headers items tables ∧ tables.length ≤ items.length ∧
      (tables.length = items.length ↔ ∃ folded, (fold hook headers items).result = .ok folded) := by
  obtain ⟨tables, hevents, htables⟩ := foldFrom_tables hook headers 0 .empty items
  refine ⟨tables, ?_, htables⟩
  rw [fold, hevents, itemEvents]
  simp only [Nat.zero_add]

end Fold

/-! ### Stages -/

section Stages

open Logged (lift log mk_ok_bind mk_error_bind)

variable {a : Aggregator} {map : MapDocument} {headers : Headers} {payload : List UInt8}
  {items : List (List UInt8)} {events : List Event} {request : Envelope}

theorem aggregate_eq_undecodable {error : Wire.DecodeError}
    (hd : decodeCollection payload = .error error) :
    a.aggregate headers payload = ⟨[], .error (.collection error)⟩ := by
  simp only [Aggregator.aggregate, lift, hd, mapError_error, mk_error_bind]

theorem aggregate_eq_unfolded {e : CallError} (hd : decodeCollection payload = .ok items)
    (hf : fold a.accumulate headers items = ⟨events, .error e⟩) :
    a.aggregate headers payload = ⟨.decodedBatch items.length :: events, .error e⟩ := by
  simp only [Aggregator.aggregate, lift, log, hd, mapError_ok, mk_ok_bind, hf, mk_error_bind,
    List.nil_append, List.singleton_append]

theorem aggregate_eq_unreleased {folded : RecordTable} {fault : HookFault}
    (hd : decodeCollection payload = .ok items)
    (hf : fold a.accumulate headers items = ⟨events, .ok folded⟩)
    (hr : a.finalize.release folded = .error fault) :
    a.aggregate headers payload =
      ⟨.decodedBatch items.length :: (events ++ [.foldedBatch folded.size]),
        .error (.hook .finalize fault.text)⟩ := by
  simp only [Aggregator.aggregate, finalizeTable, lift, log, hd, mapError_ok, mapError_error,
    mk_ok_bind, hf, invoke, hr, mk_error_bind, List.nil_append, List.singleton_append]

theorem aggregate_eq_released {folded emitted : RecordTable}
    (hd : decodeCollection payload = .ok items)
    (hf : fold a.accumulate headers items = ⟨events, .ok folded⟩)
    (hr : a.finalize.release folded = .ok emitted) :
    a.aggregate headers payload =
      ⟨.decodedBatch items.length :: (events ++ [.foldedBatch folded.size,
        .finalizedTable folded.size emitted.size, .finalizedBatch emitted.size]),
        .ok emitted⟩ := by
  simp only [Aggregator.aggregate, finalizeTable, lift, log, hd, mapError_ok, mk_ok_bind, hf,
    invoke, hr, List.nil_append, List.singleton_append]
  rfl

theorem reply_eq_of_aggregate_error {e : CallError}
    (he : a.aggregate request.headers request.payload = ⟨events, .error e⟩) :
    a.reply request = ⟨events, .error (.error e)⟩ := by
  simp only [Aggregator.reply, he, Logged.mapError, mapError_error, mk_error_bind]

theorem reply_eq_of_aggregate_ok {emitted : RecordTable}
    (he : a.aggregate request.headers request.payload = ⟨events, .ok emitted⟩) :
    a.reply request =
      ⟨events ++ [.encoded (encodeRecords emitted).length],
        match a.finalize.replyHeaders .empty with
        | .error panic => .error (.panic panic)
        | .ok added => .ok ⟨added.insert Headers.contentType Framing.batch.contentType,
          encodeRecords emitted⟩⟩ := by
  simp only [Aggregator.reply, he, Logged.mapError, mapError_ok, lift, log, mk_ok_bind]
  cases a.finalize.replyHeaders .empty with
  | error panic => rfl
  | ok added => rfl

theorem mapReply_eq_unread {e : CallError} (hi : decodeItem 0 request.payload = .error e) :
    mapReply map request = ⟨[], .error (.error e)⟩ := by
  simp only [mapReply, lift, hi, mapError_error, mk_error_bind]

theorem mapReply_eq_unmapped {d : Json.Document} {fault : HookFault}
    (hi : decodeItem 0 request.payload = .ok d) (hm : map request.headers d = .error fault) :
    mapReply map request = ⟨[.decodedDocument], .error (.error (.hook .map fault.text))⟩ := by
  simp only [mapReply, lift, log, hi, mapError_ok, mapError_error, mk_ok_bind, invoke, hm,
    mk_error_bind, List.nil_append, List.append_nil]

theorem mapReply_eq_mapped {d mapped : Json.Document}
    (hi : decodeItem 0 request.payload = .ok d) (hm : map request.headers d = .ok mapped) :
    mapReply map request =
      ⟨[.decodedDocument, .encoded mapped.bytes.length],
        .ok ⟨OrderedMap.empty.insert Headers.contentType Framing.document.contentType,
          mapped.bytes⟩⟩ := by
  simp only [mapReply, lift, log, hi, mapError_ok, mk_ok_bind, invoke, hm,
    List.nil_append, List.singleton_append]
  rfl

end Stages

/-! ### Calls -/

/-- The event that ends a call whose content type is accepted. A panic ends a call without one. -/
def closing (f : Framing) : Except Interruption Envelope → List Event
  | .ok reply => [.completed f reply.payload.length]
  | .error (.error e) => [.failed e]
  | .error (.panic _) => []

theorem answer_eq_of_announce {h : Handler} {request : Envelope}
    (ha : request.headers.Announce h.framing) :
    h.answer request =
      ⟨.received request.payload.length :: .validated h.framing ::
        ((h.reply request).events ++ closing h.framing (h.reply request).result),
        (h.reply request).result⟩ := by
  obtain ⟨m, hm⟩ := checkContentType_of_announce ha
  simp only [Handler.answer, hm]
  cases (h.reply request).result with
  | ok reply => rfl
  | error i =>
    cases i with
    | error e => rfl
    | panic p => simp [closing]

/-- What a call logs and how it ends, for each of the ways in which it can end. -/
inductive Chronicle : Handler → Envelope → Logged Interruption Envelope → Prop
  | rejected {h : Handler} {request : Envelope} (hn : ¬request.headers.Announce h.framing) :
    Chronicle h request
      ⟨[.received request.payload.length,
          .rejected (.contentType (request.headers.get? Headers.contentType) h.framing)],
        .error (.error (.contentType (request.headers.get? Headers.contentType) h.framing))⟩
  | undecodable {a : Aggregator} {request : Envelope} {error : Wire.DecodeError}
      (ha : request.headers.Announce .batch)
      (hd : decodeCollection request.payload = .error error) :
    Chronicle (.aggregator a) request
      ⟨[.received request.payload.length, .validated .batch, .failed (.collection error)],
        .error (.error (.collection error))⟩
  | unfolded {a : Aggregator} {request : Envelope} {items : List (List UInt8)}
      {tables : List RecordTable} {e : CallError} (ha : request.headers.Announce .batch)
      (hd : decodeCollection request.payload = .ok items)
      (ht : TablesAlong a.accumulate request.headers items tables)
      (hsome : tables.length < items.length)
      (hf : (fold a.accumulate request.headers items).result = .error e) :
    Chronicle (.aggregator a) request
      ⟨[.received request.payload.length, .validated .batch, .decodedBatch items.length] ++
          itemEvents tables ++ [.failed e],
        .error (.error e)⟩
  | unreleased {a : Aggregator} {request : Envelope} {items : List (List UInt8)}
      {tables : List RecordTable} {folded : RecordTable} {fault : HookFault}
      (ha : request.headers.Announce .batch)
      (hd : decodeCollection request.payload = .ok items)
      (ht : TablesAlong a.accumulate request.headers items tables)
      (hall : tables.length = items.length)
      (hf : (fold a.accumulate request.headers items).result = .ok folded)
      (hr : a.finalize.release folded = .error fault) :
    Chronicle (.aggregator a) request
      ⟨[.received request.payload.length, .validated .batch, .decodedBatch items.length] ++
          itemEvents tables ++
          [.foldedBatch folded.size, .failed (.hook .finalize fault.text)],
        .error (.error (.hook .finalize fault.text))⟩
  | aborted {a : Aggregator} {request : Envelope} {items : List (List UInt8)}
      {tables : List RecordTable} {folded emitted : RecordTable} {panic : Panic}
      (ha : request.headers.Announce .batch)
      (hd : decodeCollection request.payload = .ok items)
      (ht : TablesAlong a.accumulate request.headers items tables)
      (hall : tables.length = items.length)
      (hf : (fold a.accumulate request.headers items).result = .ok folded)
      (hr : a.finalize.release folded = .ok emitted)
      (hh : a.finalize.replyHeaders .empty = .error panic) :
    Chronicle (.aggregator a) request
      ⟨[.received request.payload.length, .validated .batch, .decodedBatch items.length] ++
          itemEvents tables ++
          [.foldedBatch folded.size, .finalizedTable folded.size emitted.size,
            .finalizedBatch emitted.size, .encoded (encodeRecords emitted).length],
        .error (.panic panic)⟩
  | replied {a : Aggregator} {request : Envelope} {items : List (List UInt8)}
      {tables : List RecordTable} {folded emitted : RecordTable} {added : Headers}
      (ha : request.headers.Announce .batch)
      (hd : decodeCollection request.payload = .ok items)
      (ht : TablesAlong a.accumulate request.headers items tables)
      (hall : tables.length = items.length)
      (hf : (fold a.accumulate request.headers items).result = .ok folded)
      (hr : a.finalize.release folded = .ok emitted)
      (hh : a.finalize.replyHeaders .empty = .ok added) :
    Chronicle (.aggregator a) request
      ⟨[.received request.payload.length, .validated .batch, .decodedBatch items.length] ++
          itemEvents tables ++
          [.foldedBatch folded.size, .finalizedTable folded.size emitted.size,
            .finalizedBatch emitted.size, .encoded (encodeRecords emitted).length,
            .completed .batch (encodeRecords emitted).length],
        .ok ⟨added.insert Headers.contentType Framing.batch.contentType, encodeRecords emitted⟩⟩
  | unread {map : MapDocument} {request : Envelope} {e : CallError}
      (ha : request.headers.Announce .document)
      (hi : decodeItem 0 request.payload = .error e) :
    Chronicle (.mapper map) request
      ⟨[.received request.payload.length, .validated .document, .failed e], .error (.error e)⟩
  | unmapped {map : MapDocument} {request : Envelope} {d : Json.Document} {fault : HookFault}
      (ha : request.headers.Announce .document) (hi : decodeItem 0 request.payload = .ok d)
      (hm : map request.headers d = .error fault) :
    Chronicle (.mapper map) request
      ⟨[.received request.payload.length, .validated .document, .decodedDocument,
          .failed (.hook .map fault.text)],
        .error (.error (.hook .map fault.text))⟩
  | mapped {map : MapDocument} {request : Envelope} {d mapped : Json.Document}
      (ha : request.headers.Announce .document) (hi : decodeItem 0 request.payload = .ok d)
      (hm : map request.headers d = .ok mapped) :
    Chronicle (.mapper map) request
      ⟨[.received request.payload.length, .validated .document, .decodedDocument,
          .encoded mapped.bytes.length, .completed .document mapped.bytes.length],
        .ok ⟨OrderedMap.empty.insert Headers.contentType Framing.document.contentType,
          mapped.bytes⟩⟩

section Chronicle

variable {a : Aggregator} {map : MapDocument} {request : Envelope} {items : List (List UInt8)}
  {tables : List RecordTable}

theorem chronicle_of_not_announce {h : Handler} (hn : ¬request.headers.Announce h.framing) :
    Chronicle h request (h.answer request) := by
  have hanswer : h.answer request =
      ⟨[.received request.payload.length,
          .rejected (.contentType (request.headers.get? Headers.contentType) h.framing)],
        .error (.error (.contentType (request.headers.get? Headers.contentType) h.framing))⟩ := by
    simp only [Handler.answer, checkContentType_of_not_announce hn, List.singleton_append]
  rw [hanswer]
  exact .rejected hn

theorem chronicle_of_folded {folded : RecordTable} (ha : request.headers.Announce .batch)
    (hd : decodeCollection request.payload = .ok items)
    (ht : TablesAlong a.accumulate request.headers items tables)
    (hall : tables.length = items.length)
    (hf : fold a.accumulate request.headers items = ⟨itemEvents tables, .ok folded⟩) :
    Chronicle (.aggregator a) request ((Handler.aggregator a).answer request) := by
  have hfolded : (fold a.accumulate request.headers items).result = .ok folded := by rw [hf]
  rw [answer_eq_of_announce (h := .aggregator a) ha, Handler.reply]
  cases hr : a.finalize.release folded with
  | error fault =>
    rw [reply_eq_of_aggregate_error (aggregate_eq_unreleased hd hf hr)]
    simpa [closing, Handler.framing] using Chronicle.unreleased ha hd ht hall hfolded hr
  | ok emitted =>
    rw [reply_eq_of_aggregate_ok (aggregate_eq_released hd hf hr)]
    cases hh : a.finalize.replyHeaders .empty with
    | error panic =>
      simpa [closing, Handler.framing] using Chronicle.aborted ha hd ht hall hfolded hr hh
    | ok added =>
      simpa [closing, Handler.framing] using Chronicle.replied ha hd ht hall hfolded hr hh

theorem chronicle_aggregator (ha : request.headers.Announce .batch) :
    Chronicle (.aggregator a) request ((Handler.aggregator a).answer request) := by
  cases hd : decodeCollection request.payload with
  | error error =>
    rw [answer_eq_of_announce (h := .aggregator a) ha, Handler.reply,
      reply_eq_of_aggregate_error (aggregate_eq_undecodable hd)]
    exact .undecodable ha hd
  | ok items =>
    obtain ⟨tables, hevents, ht, hle, hall⟩ := fold_tables a.accumulate request.headers items
    cases hf : (fold a.accumulate request.headers items).result with
    | ok folded =>
      have hfold : fold a.accumulate request.headers items = ⟨itemEvents tables, .ok folded⟩ := by
        rw [← hevents, ← hf]
      exact chronicle_of_folded ha hd ht (hall.mpr ⟨folded, hf⟩) hfold
    | error e =>
      have hfold : fold a.accumulate request.headers items = ⟨itemEvents tables, .error e⟩ := by
        rw [← hevents, ← hf]
      have hsome : tables.length < items.length := by
        refine Nat.lt_of_le_of_ne hle fun heq => ?_
        obtain ⟨folded, hok⟩ := hall.mp heq
        rw [hf] at hok
        cases hok
      rw [answer_eq_of_announce (h := .aggregator a) ha, Handler.reply,
        reply_eq_of_aggregate_error (aggregate_eq_unfolded hd hfold)]
      simpa [closing, Handler.framing] using Chronicle.unfolded ha hd ht hsome hf

theorem chronicle_mapper (ha : request.headers.Announce .document) :
    Chronicle (.mapper map) request ((Handler.mapper map).answer request) := by
  rw [answer_eq_of_announce (h := .mapper map) ha, Handler.reply]
  cases hi : decodeItem 0 request.payload with
  | error e =>
    rw [mapReply_eq_unread hi]
    exact .unread ha hi
  | ok d =>
    cases hm : map request.headers d with
    | error fault =>
      rw [mapReply_eq_unmapped hi hm]
      exact .unmapped ha hi hm
    | ok mapped =>
      rw [mapReply_eq_mapped hi hm]
      exact .mapped ha hi hm

theorem chronicle_answer (h : Handler) (request : Envelope) :
    Chronicle h request (h.answer request) := by
  by_cases ha : request.headers.Announce h.framing
  · cases h with
    | aggregator a => exact chronicle_aggregator ha
    | mapper map => exact chronicle_mapper ha
  · exact chronicle_of_not_announce ha

end Chronicle

end WindowGateway
