import WindowGateway.Builtin.Score
import WindowGateway.Proofs.Except
import WindowGateway.Proofs.MediaType
import WindowGateway.Proofs.Wire.RoundTrip

/-! The outcome of an aggregation. Its stages come one after the other, and the first that fails
gives the call its error: the check of the content type, the decoding of the batch, the fold over
its items, and the release of the folded table. A reply exists only where none of them fails. -/

namespace WindowGateway

open Wire (CollectionBytes decodeCollection decodeCollection_eq_ok_iff Fits)

/-! ### Folding -/

section Folding

variable {hook : Accumulate} {headers : Headers} {index : Nat} {table : RecordTable}
  {bytes : List UInt8} {items : List (List UInt8)}

theorem foldFrom_cons_result :
    (foldFrom hook headers index table (bytes :: items)).result =
      (do
        let next ← foldItem hook headers index table bytes
        (foldFrom hook headers (index + 1) next items).result) := by
  simp only [foldFrom, Logged.result_bind, Logged.result_lift, Logged.result_log, pure_bind]

/-- The errors that a fold can end in. -/
def CallError.OfFold (e : CallError) : Prop :=
  (∃ index fault, e = .malformedItem index fault) ∨ ∃ text, e = .hook .accumulate text

theorem ofFold_of_decodeItem {e : CallError} (h : decodeItem index bytes = .error e) :
    e.OfFold := by
  unfold decodeItem at h
  split at h
  · next fault _ => exact .inl ⟨index, .utf8 fault, (Except.error.inj h).symm⟩
  · split at h
    · next error _ => exact .inl ⟨index, .json error, (Except.error.inj h).symm⟩
    · simp at h

theorem ofFold_of_foldItem {e : CallError}
    (h : foldItem hook headers index table bytes = .error e) : e.OfFold := by
  unfold foldItem at h
  split at h
  · next e' he =>
    obtain rfl : e' = e := Except.error.inj h
    exact ofFold_of_decodeItem he
  · split at h
    · simp at h
    · next fault _ _ => exact .inr ⟨fault.text, (Except.error.inj h).symm⟩

theorem ofFold_of_foldFrom {e : CallError}
    (h : (foldFrom hook headers index table items).result = .error e) : e.OfFold := by
  induction items generalizing index table with
  | nil =>
    have hok : Except.ok table = Except.error e := h
    cases hok
  | cons bytes items ih =>
    rw [foldFrom_cons_result] at h
    cases hitem : foldItem hook headers index table bytes with
    | error e' =>
      rw [hitem] at h
      obtain rfl : e' = e := Except.error.inj h
      exact ofFold_of_foldItem hitem
    | ok next =>
      rw [hitem] at h
      exact ih h

theorem ofFold_of_fold {e : CallError} (h : (fold hook headers items).result = .error e) :
    e.OfFold := ofFold_of_foldFrom h

end Folding

/-! ### The stages of an aggregation -/

section Stages

variable {a : Aggregator} {headers : Headers} {payload : List UInt8}

theorem aggregate_undecodable {error : Wire.DecodeError}
    (hd : decodeCollection payload = .error error) :
    (a.aggregate headers payload).result = .error (.collection error) := by
  simp only [Aggregator.aggregate, Logged.result_bind, Logged.result_lift, hd]
  rfl

theorem aggregate_decoded {items : List (List UInt8)} (hd : decodeCollection payload = .ok items) :
    (a.aggregate headers payload).result =
      (do
        let folded ← (fold a.accumulate headers items).result
        invoke .finalize (a.finalize.release folded)) := by
  simp only [Aggregator.aggregate, finalizeTable, Logged.result_bind, Logged.result_lift,
    Logged.result_log, Logged.result_pure, pure_bind, bind_pure, hd]
  rfl

theorem aggregate_unfolded {items : List (List UInt8)} (hd : decodeCollection payload = .ok items)
    {e : CallError} (hf : (fold a.accumulate headers items).result = .error e) :
    (a.aggregate headers payload).result = .error e := by
  rw [aggregate_decoded hd, hf]
  rfl

theorem aggregate_folded {items : List (List UInt8)} (hd : decodeCollection payload = .ok items)
    {folded : RecordTable} (hf : (fold a.accumulate headers items).result = .ok folded) :
    (a.aggregate headers payload).result = invoke .finalize (a.finalize.release folded) := by
  rw [aggregate_decoded hd, hf]
  rfl

theorem aggregate_eq_ok_iff {emitted : RecordTable} :
    (a.aggregate headers payload).result = .ok emitted ↔
      ∃ items folded, decodeCollection payload = .ok items ∧
        (fold a.accumulate headers items).result = .ok folded ∧
        a.finalize.release folded = .ok emitted := by
  cases hd : decodeCollection payload with
  | error error =>
    rw [aggregate_undecodable hd]
    simp
  | ok items =>
    cases hf : (fold a.accumulate headers items).result with
    | error e =>
      rw [aggregate_unfolded hd hf]
      simp [hf]
    | ok folded =>
      rw [aggregate_folded hd hf]
      simp [hf]

end Stages

/-! ### Answers -/

section Answers

variable {h : Handler} {request : Envelope}

theorem answer_rejected (hn : ¬request.headers.Announce h.framing) :
    (h.answer request).result =
      .error (.error (.contentType (request.headers.get? Headers.contentType) h.framing)) := by
  simp only [Handler.answer, checkContentType_of_not_announce hn]

theorem answer_accepted (ha : request.headers.Announce h.framing) :
    (h.answer request).result = (h.reply request).result := by
  obtain ⟨m, hm⟩ := checkContentType_of_announce ha
  simp only [Handler.answer, hm]
  cases hr : (h.reply request).result with
  | ok reply => rfl
  | error i => cases i <;> rfl

variable {a : Aggregator}

theorem answer_of_aggregate_error (ha : request.headers.Announce .batch) {e : CallError}
    (he : (a.aggregate request.headers request.payload).result = .error e) :
    ((Handler.aggregator a).answer request).result = .error (.error e) := by
  rw [answer_accepted ha]
  simp only [Handler.reply, Aggregator.reply, Logged.result_bind, Logged.result_mapError, he]
  rfl

theorem answer_of_aggregate_ok (ha : request.headers.Announce .batch) {emitted : RecordTable}
    (he : (a.aggregate request.headers request.payload).result = .ok emitted) {added : Headers}
    (hh : a.finalize.replyHeaders .empty = .ok added) :
    ((Handler.aggregator a).answer request).result =
      .ok ⟨added.insert Headers.contentType Framing.batch.contentType, encodeRecords emitted⟩ := by
  rw [answer_accepted ha]
  simp only [Handler.reply, Aggregator.reply, Logged.result_bind, Logged.result_mapError,
    Logged.result_lift, Logged.result_log, Logged.result_pure, he, hh]
  rfl

theorem answer_of_panic (ha : request.headers.Announce .batch) {emitted : RecordTable}
    (he : (a.aggregate request.headers request.payload).result = .ok emitted) {panic : Panic}
    (hh : a.finalize.replyHeaders .empty = .error panic) :
    ((Handler.aggregator a).answer request).result = .error (.panic panic) := by
  rw [answer_accepted ha]
  simp only [Handler.reply, Aggregator.reply, Logged.result_bind, Logged.result_mapError,
    Logged.result_lift, Logged.result_log, he, hh]
  rfl

theorem answer_eq_ok_iff (ha : request.headers.Announce .batch) {reply : Envelope} :
    ((Handler.aggregator a).answer request).result = .ok reply ↔
      ∃ emitted added,
        (a.aggregate request.headers request.payload).result = .ok emitted ∧
        a.finalize.replyHeaders .empty = .ok added ∧
        reply = ⟨added.insert Headers.contentType Framing.batch.contentType,
          encodeRecords emitted⟩ := by
  cases he : (a.aggregate request.headers request.payload).result with
  | error e =>
    rw [answer_of_aggregate_error ha he]
    simp
  | ok emitted =>
    cases hh : a.finalize.replyHeaders .empty with
    | error panic =>
      rw [answer_of_panic ha he hh]
      simp
    | ok added =>
      rw [answer_of_aggregate_ok ha he hh]
      simp [eq_comm]

end Answers

/-! ### The outcome -/

section Outcome

variable {a : Aggregator} {request : Envelope}

/-- The ways in which a call of an aggregation can end, one for each stage. -/
inductive Ending (a : Aggregator) (request : Envelope) : Except Interruption Envelope → Prop
  | rejected (hn : ¬request.headers.Announce .batch) :
    Ending a request
      (.error (.error (.contentType (request.headers.get? Headers.contentType) .batch)))
  | undecodable (ha : request.headers.Announce .batch) {error : Wire.DecodeError}
      (hd : decodeCollection request.payload = .error error) :
    Ending a request (.error (.error (.collection error)))
  | unfolded (ha : request.headers.Announce .batch) {items : List (List UInt8)} {e : CallError}
      (hd : decodeCollection request.payload = .ok items)
      (hf : (fold a.accumulate request.headers items).result = .error e) :
    Ending a request (.error (.error e))
  | unreleased (ha : request.headers.Announce .batch) {items : List (List UInt8)}
      {folded : RecordTable} {fault : HookFault}
      (hd : decodeCollection request.payload = .ok items)
      (hf : (fold a.accumulate request.headers items).result = .ok folded)
      (hr : a.finalize.release folded = .error fault) :
    Ending a request (.error (.error (.hook .finalize fault.text)))
  | aborted (ha : request.headers.Announce .batch) {emitted : RecordTable} {panic : Panic}
      (he : (a.aggregate request.headers request.payload).result = .ok emitted)
      (hh : a.finalize.replyHeaders .empty = .error panic) :
    Ending a request (.error (.panic panic))
  | replied (ha : request.headers.Announce .batch) {emitted : RecordTable} {added : Headers}
      (he : (a.aggregate request.headers request.payload).result = .ok emitted)
      (hh : a.finalize.replyHeaders .empty = .ok added) :
    Ending a request
      (.ok ⟨added.insert Headers.contentType Framing.batch.contentType, encodeRecords emitted⟩)

theorem ending_answer (a : Aggregator) (request : Envelope) :
    Ending a request ((Handler.aggregator a).answer request).result := by
  by_cases ha : request.headers.Announce .batch
  · cases hd : decodeCollection request.payload with
    | error error =>
      rw [answer_of_aggregate_error ha (aggregate_undecodable hd)]
      exact .undecodable ha hd
    | ok items =>
      cases hf : (fold a.accumulate request.headers items).result with
      | error e =>
        rw [answer_of_aggregate_error ha (aggregate_unfolded hd hf)]
        exact .unfolded ha hd hf
      | ok folded =>
        have hstage := aggregate_folded hd hf
        cases hr : a.finalize.release folded with
        | error fault =>
          rw [hr] at hstage
          rw [answer_of_aggregate_error ha hstage]
          exact .unreleased ha hd hf hr
        | ok emitted =>
          rw [hr] at hstage
          cases hh : a.finalize.replyHeaders .empty with
          | error panic =>
            rw [answer_of_panic ha hstage hh]
            exact .aborted ha hstage hh
          | ok added =>
            rw [answer_of_aggregate_ok ha hstage hh]
            exact .replied ha hstage hh
  · rw [answer_rejected (h := .aggregator a) ha]
    exact .rejected ha

theorem contentType_error_iff :
    (∃ found expected, ((Handler.aggregator a).answer request).result =
      .error (.error (.contentType found expected))) ↔ ¬request.headers.Announce .batch := by
  constructor
  · rintro ⟨found, expected, heq⟩
    have hending := ending_answer a request
    rw [heq] at hending
    cases hending with
    | rejected hn => exact hn
    -- A fold has no error of this kind.
    | unfolded _ _ hf => obtain ⟨_, _, he⟩ | ⟨_, he⟩ := ofFold_of_fold hf <;> cases he
  · intro hn
    exact ⟨_, _, answer_rejected hn⟩

theorem collection_error_iff (ha : request.headers.Announce .batch) :
    (∃ error, ((Handler.aggregator a).answer request).result =
      .error (.error (.collection error))) ↔
        ¬∃ items, CollectionBytes request.payload items := by
  constructor
  · rintro ⟨error, heq⟩ ⟨items, hitems⟩
    have hending := ending_answer a request
    rw [heq] at hending
    cases hending with
    | undecodable _ hd =>
      rw [decodeCollection_eq_ok_iff.mpr hitems] at hd
      cases hd
    | unfolded _ _ hf => obtain ⟨_, _, he⟩ | ⟨_, he⟩ := ofFold_of_fold hf <;> cases he
  · intro hnone
    cases hd : decodeCollection request.payload with
    | error error => exact ⟨error, answer_of_aggregate_error ha (aggregate_undecodable hd)⟩
    | ok items => exact absurd ⟨items, decodeCollection_eq_ok_iff.mp hd⟩ hnone

theorem finalize_error_iff (ha : request.headers.Announce .batch) {items : List (List UInt8)}
    (hd : decodeCollection request.payload = .ok items) {folded : RecordTable}
    (hf : (fold a.accumulate request.headers items).result = .ok folded) :
    (∃ text, ((Handler.aggregator a).answer request).result =
      .error (.error (.hook .finalize text))) ↔
        ∃ fault, a.finalize.release folded = .error fault := by
  constructor
  · rintro ⟨text, heq⟩
    have hending := ending_answer a request
    rw [heq] at hending
    cases hending with
    | unfolded _ _ hf => obtain ⟨_, _, he⟩ | ⟨_, he⟩ := ofFold_of_fold hf <;> cases he
    | unreleased _ hd' hf' hr =>
      rw [hd] at hd'
      cases hd'
      rw [hf] at hf'
      cases hf'
      exact ⟨_, hr⟩
  · rintro ⟨fault, hr⟩
    have hstage := aggregate_folded hd hf
    rw [hr] at hstage
    exact ⟨fault.text, answer_of_aggregate_error ha hstage⟩

/-- A reply holds one item for each record that is released. -/
theorem answer_released (ha : request.headers.Announce .batch) {emitted : RecordTable}
    (he : (a.aggregate request.headers request.payload).result = .ok emitted) {added : Headers}
    (hh : a.finalize.replyHeaders .empty = .ok added) :
    ∃ payload, ((Handler.aggregator a).answer request).result =
        .ok ⟨added.insert Headers.contentType Framing.batch.contentType, payload⟩ ∧
      (Fits (emitted.values.map Json.Document.bytes) →
        decodeCollection payload = .ok (emitted.values.map Json.Document.bytes)) :=
  ⟨_, answer_of_aggregate_ok ha he hh, Wire.decodeCollection_encodeCollection⟩

theorem stages_of_reply {reply : Envelope}
    (hreply : ((Handler.aggregator a).answer request).result = .ok reply) :
    request.headers.Announce .batch ∧ ∃ items folded emitted,
      CollectionBytes request.payload items ∧
      (fold a.accumulate request.headers items).result = .ok folded ∧
      a.finalize.release folded = .ok emitted := by
  have hending := ending_answer a request
  rw [hreply] at hending
  cases hending with
  | replied ha he _ =>
    obtain ⟨items, folded, hd, hf, hr⟩ := aggregate_eq_ok_iff.mp he
    exact ⟨ha, items, folded, _, decodeCollection_eq_ok_iff.mp hd, hf, hr⟩

end Outcome

/-- How a call of an aggregation ends, whatever its hooks do as long as the one for headers returns.
Of several things that are wrong with a call the earliest stage tells, and each stage has an error
that no other has. -/
theorem aggregation_outcome (a : Aggregator) (request : Envelope) {added : Headers}
    (hh : a.finalize.replyHeaders .empty = .ok added) :
    let result := ((Handler.aggregator a).answer request).result
    ((∃ found expected, result = .error (.error (.contentType found expected))) ↔
      ¬request.headers.Announce .batch) ∧
    (request.headers.Announce .batch →
      ((∃ error, result = .error (.error (.collection error))) ↔
        ¬∃ items, CollectionBytes request.payload items) ∧
      ∀ items, CollectionBytes request.payload items →
        (∀ e, (fold a.accumulate request.headers items).result = .error e →
          result = .error (.error e)) ∧
        ∀ folded, (fold a.accumulate request.headers items).result = .ok folded →
          ((∃ text, result = .error (.error (.hook .finalize text))) ↔
            ∃ fault, a.finalize.release folded = .error fault) ∧
          ∀ emitted, a.finalize.release folded = .ok emitted →
            (∃ payload,
              result = .ok ⟨added.insert Headers.contentType "multipart/json", payload⟩ ∧
              (Fits (emitted.values.map Json.Document.bytes) →
                decodeCollection payload = .ok (emitted.values.map Json.Document.bytes))) ∧
            (a.finalize = .identity → emitted = folded)) ∧
    ∀ reply, result = .ok reply →
      request.headers.Announce .batch ∧ ∃ items folded emitted,
        CollectionBytes request.payload items ∧
        (fold a.accumulate request.headers items).result = .ok folded ∧
        a.finalize.release folded = .ok emitted := by
  intro result
  refine ⟨contentType_error_iff, fun ha => ⟨collection_error_iff ha, fun items hitems => ?_⟩,
    fun reply hreply => stages_of_reply hreply⟩
  have hd := decodeCollection_eq_ok_iff.mpr hitems
  refine ⟨fun e hf => ?_, fun folded hf => ⟨finalize_error_iff ha hd hf, fun emitted hr => ?_⟩⟩
  · exact answer_of_aggregate_error ha (aggregate_unfolded hd hf)
  · refine ⟨answer_released ha (aggregate_eq_ok_iff.mpr ⟨items, folded, hd, hf, hr⟩) hh, ?_⟩
    intro hidentity
    rw [hidentity] at hr
    exact (Except.ok.inj hr).symm

/-- Two scores of one team, in a batch whose content type is written in an unusual way. -/
theorem aggregation_outcome_teamScore :
    let a : Aggregator := { accumulate := Builtin.teamScore.accumulate }
    let items := [Text.bytes "\x7b\"team\":\"a\",\"score\":1\x7d",
      Text.bytes "\x7b\"team\":\"a\",\"score\":\"2\"\x7d"]
    let request : Envelope :=
      ⟨OrderedMap.empty.insert Headers.contentType " Multipart/JSON;q=1",
        Wire.encodeCollection items⟩
    a.finalize.replyHeaders .empty = .ok .empty ∧ ∃ payload,
      ((Handler.aggregator a).answer request).result =
        .ok ⟨OrderedMap.empty.insert Headers.contentType "multipart/json", payload⟩ ∧
      decodeCollection payload =
        .ok [Text.bytes "\x7b\"team\":\"a\",\"totalScore\":3\x7d"] := by
  intro a items request
  have ha : request.headers.Announce .batch := ⟨" Multipart/JSON;q=1", rfl, by decide⟩
  have hitems : CollectionBytes request.payload items :=
    Wire.collectionBytes_encodeCollection (by decide +kernel)
  let folded := (fold a.accumulate request.headers items).result.toOption.getD .empty
  have hf : (fold a.accumulate request.headers items).result = .ok folded :=
    eq_ok_getD (by decide +kernel)
  have hbytes : folded.values.map Json.Document.bytes =
      [Text.bytes "\x7b\"team\":\"a\",\"totalScore\":3\x7d"] := by decide +kernel
  have houtcome := (((aggregation_outcome a request rfl).2.1 ha).2 items hitems).2 folded hf
  obtain ⟨⟨payload, hreply, hdecode⟩, _⟩ := houtcome.2 folded rfl
  rw [hbytes] at hdecode
  exact ⟨rfl, payload, hreply, hdecode (by decide +kernel)⟩

end WindowGateway
