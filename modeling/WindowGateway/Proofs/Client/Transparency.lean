import WindowGateway.Client.Send
import WindowGateway.Proofs.Call.Containment
import WindowGateway.Proofs.Item

/-! Sending a batch to an aggregation gives what its hooks give directly on the documents: nothing
is lost, moved or changed on the way into the request, through the call, and out of the reply. That
holds if the hook that writes headers returns; where it panics, nothing comes back, whatever the
hooks give directly. -/

namespace WindowGateway

open Json (Document)
open Wire (Fits decodeCollection decodeCollection_encodeCollection)

/-! ### Hooks on documents -/

/-- The table after documents, each of which the hook folds once, in order. -/
def foldDocuments (hook : Accumulate) (headers : Headers) :
    RecordTable → List Document → Except HookFault RecordTable
  | table, [] => .ok table
  | table, d :: docs =>
    match hook.run headers d table with
    | (.ok (), next) => foldDocuments hook headers next docs
    | (.error fault, _) => .error fault

/-- The records that the hooks of an aggregation give on documents: each document is folded once, in
order, from the empty table on, and the folded table is released once. -/
def Aggregator.direct (a : Aggregator) (headers : Headers) (docs : List Document) :
    Except HookFault (List Document) := do
  let folded ← foldDocuments a.accumulate headers .empty docs
  let emitted ← a.finalize.release folded
  pure emitted.values

/-- A document that can be sent and read back: no floating-point number in it, no deeper nesting
than the reader allows, and a text that a buffer can hold. -/
structure Portable (d : Document) : Prop where
  floatFree : d.value.floatFree = true
  depth : d.value.depth ≤ Json.maxDepth
  length : d.bytes.length < 0x8000000000000000

instance (d : Document) : Decidable (Portable d) :=
  decidable_of_iff (d.value.floatFree = true ∧ d.value.depth ≤ Json.maxDepth ∧
      d.bytes.length < 0x8000000000000000)
    ⟨fun h => ⟨h.1, h.2.1, h.2.2⟩, fun h => ⟨h.floatFree, h.depth, h.length⟩⟩

theorem fits_of_portable {docs : List Document} (h : ∀ d ∈ docs, Portable d) :
    Fits (docs.map Document.bytes) := by
  intro item hitem
  obtain ⟨d, hd, rfl⟩ := List.mem_map.mp hitem
  exact (h d hd).length

/-! ### Into the call -/

section Fold

variable {hook : Accumulate} {headers : Headers}

theorem decodeItem_bytes {d : Document} (hf : d.value.floatFree = true)
    (hd : d.value.depth ≤ Json.maxDepth) (index : Nat) : decodeItem index d.bytes = .ok d :=
  decodeItem_of_holds ⟨⟨d.value.chars, Text.Utf8.decode_encode _⟩, Document.parse_bytes hf hd⟩

theorem foldFrom_bytes {docs : List Document} (h : ∀ d ∈ docs, Portable d) (index : Nat)
    (table : RecordTable) :
    (foldFrom hook headers index table (docs.map Document.bytes)).result =
      invoke .accumulate (foldDocuments hook headers table docs) := by
  -- For every table, since a hook may leave any table to the next document.
  induction docs generalizing index table with
  | nil => rfl
  | cons d docs ih =>
    have hportable := h d List.mem_cons_self
    have hd := decodeItem_bytes hportable.floatFree hportable.depth index
    have htail := ih fun u hu => h u (List.mem_cons_of_mem _ hu)
    rw [List.map_cons, foldFrom_cons_result]
    simp only [foldItem, hd, foldDocuments]
    rcases hrun : hook.run headers d table with ⟨_ | _, next⟩
    · rfl
    · exact htail (index + 1) next

end Fold

/-! ### Out of the reply -/

theorem itemDocuments_bytes {docs : List Document} (h : ∀ d ∈ docs, Portable d) (index : Nat) :
    Client.itemDocuments index (docs.map Document.bytes) = .ok docs := by
  induction docs generalizing index with
  | nil => rfl
  | cons d docs ih =>
    have hd := h d List.mem_cons_self
    have htail := ih (fun u hu => h u (List.mem_cons_of_mem _ hu)) (index + 1)
    rw [List.map_cons, Client.itemDocuments, Document.parse_bytes hd.floatFree hd.depth]
    simp only [htail]
    rfl

theorem replyDocuments_batch (headers : Headers) {docs : List Document}
    (h : ∀ d ∈ docs, Portable d) :
    Client.replyDocuments
      ⟨headers.insert Headers.contentType Framing.batch.contentType,
        Wire.encodeCollection (docs.map Document.bytes)⟩ = .ok docs := by
  have hframing : Client.framingOf Framing.batch.contentType = .ok .batch := rfl
  have hitems := decodeCollection_encodeCollection (fits_of_portable h)
  simp only [Client.replyDocuments, OrderedMap.get?_insert_self, hframing, Client.batchDocuments,
    hitems, itemDocuments_bytes h]
  rfl

/-! ### The whole way -/

section Batch

variable {a : Aggregator} {headers : Headers} {docs : List Document}

theorem direct_eq_ok_iff {records : List Document} :
    a.direct headers docs = .ok records ↔
      ∃ folded emitted, foldDocuments a.accumulate headers .empty docs = .ok folded ∧
        a.finalize.release folded = .ok emitted ∧ emitted.values = records := by
  rw [Aggregator.direct]
  cases foldDocuments a.accumulate headers .empty docs with
  | error fault => simp [bind, Except.bind]
  | ok folded =>
    cases hr : a.finalize.release folded with
    | error fault => simp [bind, Except.bind, hr]
    | ok emitted => simp [bind, Except.bind, pure, Except.pure, hr]

theorem aggregate_documents (hdocs : ∀ d ∈ docs, Portable d) {emitted : RecordTable} :
    (a.aggregate headers (Wire.encodeCollection (docs.map Document.bytes))).result =
        .ok emitted ↔
      ∃ folded, foldDocuments a.accumulate headers .empty docs = .ok folded ∧
        a.finalize.release folded = .ok emitted := by
  have hdecode := decodeCollection_encodeCollection (fits_of_portable hdocs)
  have hfold : (fold a.accumulate headers (docs.map Document.bytes)).result =
      invoke .accumulate (foldDocuments a.accumulate headers .empty docs) :=
    foldFrom_bytes hdocs 0 _
  rw [aggregate_eq_ok_iff, hdecode]
  constructor
  · rintro ⟨items, folded, hitems, hf, hr⟩
    obtain rfl := Except.ok.inj hitems
    rw [hfold] at hf
    exact ⟨folded, invoke_eq_ok_iff.mp hf, hr⟩
  · rintro ⟨folded, hf, hr⟩
    exact ⟨_, folded, rfl, hfold.trans (invoke_eq_ok_iff.mpr hf), hr⟩

/-- The answer to a batch of documents holds the records that the hooks give directly. There is one
just if these give records and the hook that writes headers returns. -/
theorem answer_documents (ha : headers.Announce .batch) (hdocs : ∀ d ∈ docs, Portable d)
    (hrecords : ∀ records, a.direct headers docs = .ok records → ∀ r ∈ records, Portable r)
    (records : List Document) :
    (∃ reply,
      ((Handler.aggregator a).answer
        ⟨headers, Wire.encodeCollection (docs.map Document.bytes)⟩).result = .ok reply ∧
      Client.replyDocuments reply = .ok records) ↔
      a.direct headers docs = .ok records ∧
        ∃ added, a.finalize.replyHeaders .empty = .ok added := by
  constructor
  · rintro ⟨reply, hanswer, hreply⟩
    obtain ⟨emitted, added, hemitted, hh, rfl⟩ := (answer_eq_ok_iff ha).mp hanswer
    obtain ⟨folded, hf, hr⟩ := (aggregate_documents hdocs).mp hemitted
    have hdirect := direct_eq_ok_iff.mpr ⟨folded, emitted, hf, hr, rfl⟩
    have hback := replyDocuments_batch added (hrecords _ hdirect)
    rw [encodeRecords, hback] at hreply
    rw [hdirect, Except.ok.inj hreply]
    exact ⟨rfl, added, hh⟩
  · rintro ⟨hdirect, added, hh⟩
    obtain ⟨folded, emitted, hf, hr, rfl⟩ := direct_eq_ok_iff.mp hdirect
    have hemitted := (aggregate_documents hdocs).mpr ⟨folded, hf, hr⟩
    exact ⟨_, (answer_eq_ok_iff ha).mpr ⟨emitted, added, hemitted, hh, rfl⟩,
      replyDocuments_batch added (hrecords _ hdirect)⟩

end Batch

theorem requestReply_eq_ok_iff {h : Handler} {request reply : Envelope} :
    requestReply h request = .ok reply ↔ (h.answer request).result = .ok reply := by
  unfold requestReply
  split <;> simp_all

theorem callAll_single {service : Client.Service} {request : Envelope} {records : List Document} :
    (∃ reply, service request = .ok reply ∧ Client.replyDocuments reply = .ok records) ↔
      Client.callAll service [request] = .ok records := by
  rw [Client.callAll]
  cases service request with
  | error status => simp
  | ok reply => cases hr : Client.replyDocuments reply <;> simp [hr, Client.callAll, Except.map]

/-- Nothing comes back from a gateway whose hook for headers panics. -/
theorem callAll_of_headersPanic {request : Envelope} (hp : HeadersPanic h request) :
    Client.callAll (requestReply h) [request] = .error (.rejected abortedStatus) := by
  rw [Client.callAll, requestReply_of_headersPanic hp]

/-- Sending the documents of a text as a batch and reading the reply gives the records that the
hooks give directly on the documents, and fails exactly where the hooks do, if the hook that writes
headers returns. Texts are no longer than a buffer can be. -/
theorem exchange_transparent (a : Aggregator) (input : String) (w : Window) {docs : List Document}
    (hp : Json.parseLines input = .ok docs)
    (hdocs : ∀ d ∈ docs, d.value.floatFree = true ∧ d.bytes.length < 0x8000000000000000)
    (hrecords : ∀ records,
      a.direct (w.headers.insert Headers.contentType "multipart/json") docs = .ok records →
        ∀ r ∈ records, Portable r)
    {added : Headers} (hh : a.finalize.replyHeaders .empty = .ok added) (records : List Document) :
    ((∃ request reply, Client.buildRequests docs .batch w.headers = [request] ∧
      ((Handler.aggregator a).answer request).result = .ok reply ∧
      Client.replyDocuments reply = .ok records) ↔
        a.direct (w.headers.insert Headers.contentType "multipart/json") docs = .ok records) ∧
    (Client.exchange (requestReply (.aggregator a)) .batch w input = .ok records ↔
      a.direct (w.headers.insert Headers.contentType "multipart/json") docs = .ok records) := by
  have hportable : ∀ d ∈ docs, Portable d := fun d hd =>
    ⟨(hdocs d hd).1, Json.depth_of_parseLines hp d hd, (hdocs d hd).2⟩
  have ha := announce_contentType w.headers .batch
  have hanswer := answer_documents ha hportable hrecords records
  rw [and_iff_left ⟨added, hh⟩] at hanswer
  refine ⟨Iff.trans ?_ hanswer, Iff.trans ?_ hanswer⟩
  · constructor
    · rintro ⟨request, reply, hrequest, hreply⟩
      obtain rfl : _ = request := (List.cons.inj hrequest).1
      exact ⟨reply, hreply⟩
    · rintro ⟨reply, hreply⟩
      exact ⟨_, reply, rfl, hreply⟩
  · simp only [Client.exchange, hp, Client.buildRequests, ← callAll_single,
      requestReply_eq_ok_iff]

/-- Two teams, a key that comes twice in one document, a text with an escape, and a blank line. -/
theorem exchange_transparent_teamScore :
    let a : Aggregator := { accumulate := Builtin.teamScore.accumulate }
    let input := "\x7b\"team\":\"b\\n\",\"score\":1,\"score\":2\x7d\n\n" ++
      "\x7b\"team\":\"a\",\"score\":9223372036854775807\x7d\n" ++
      "\x7b\"team\":\"b\\u000a\",\"score\":\"-5\"\x7d"
    let w : Window := ⟨some "0", none⟩
    ∃ docs records,
      Json.parseLines input = .ok docs ∧
      (∀ d ∈ docs, d.value.floatFree = true ∧ d.bytes.length < 0x8000000000000000) ∧
      (∀ records,
        a.direct (w.headers.insert Headers.contentType "multipart/json") docs = .ok records →
          ∀ r ∈ records, Portable r) ∧
      a.finalize.replyHeaders .empty = .ok .empty ∧
      Client.exchange (requestReply (.aggregator a)) .batch w input = .ok records ∧
      records.map Document.render =
        ["\x7b\"from\":\"0\",\"team\":\"b\\n\",\"totalScore\":-3\x7d",
          "\x7b\"from\":\"0\",\"team\":\"a\",\"totalScore\":9223372036854775807\x7d"] := by
  intro a input w
  let docs := (Json.parseLines input).toOption.getD []
  let headers := w.headers.insert Headers.contentType "multipart/json"
  let records := (a.direct headers docs).toOption.getD []
  have hp : Json.parseLines input = .ok docs := eq_ok_getD (by decide +kernel)
  have hdirect : a.direct headers docs = .ok records := eq_ok_getD (by decide +kernel)
  have hdocs : ∀ d ∈ docs, d.value.floatFree = true ∧ d.bytes.length < 0x8000000000000000 := by
    decide +kernel
  have hportable : ∀ r ∈ records, Portable r := by decide +kernel
  have hrecords : ∀ others, a.direct headers docs = .ok others → ∀ r ∈ others, Portable r := by
    intro others hothers
    rw [hdirect] at hothers
    obtain rfl : records = others := Except.ok.inj hothers
    exact hportable
  have hexchange := (exchange_transparent a input w hp hdocs hrecords rfl records).2.mpr hdirect
  exact ⟨docs, records, hp, hdocs, hrecords, rfl, hexchange, by decide +kernel⟩

/-- One item, and a hook that panics when it is to write headers: the hooks give a record directly,
and no record comes back. -/
theorem not_transparent_of_panicking_headers :
    let a : Aggregator :=
      { accumulate := Builtin.teamScore.accumulate,
        finalize :=
          { release := fun table => .ok table, replyHeaders := fun _ => .error ⟨some "boom"⟩ } }
    let input := "\x7b\"team\":\"a\",\"score\":1\x7d"
    let w : Window := ⟨none, none⟩
    ∃ docs records,
      Json.parseLines input = .ok docs ∧
      (∀ d ∈ docs, d.value.floatFree = true ∧ d.bytes.length < 0x8000000000000000) ∧
      (∀ r ∈ records, Portable r) ∧
      a.direct (w.headers.insert Headers.contentType "multipart/json") docs = .ok records ∧
      records.map Document.render = ["\x7b\"team\":\"a\",\"totalScore\":1\x7d"] ∧
      (∀ request reply, Client.buildRequests docs .batch w.headers = [request] →
        ((Handler.aggregator a).answer request).result ≠ .ok reply) ∧
      Client.exchange (requestReply (.aggregator a)) .batch w input =
        .error (.rejected abortedStatus) := by
  intro a input w
  let docs := (Json.parseLines input).toOption.getD []
  let headers := w.headers.insert Headers.contentType "multipart/json"
  let records := (a.direct headers docs).toOption.getD []
  have hp : Json.parseLines input = .ok docs := eq_ok_getD (by decide +kernel)
  have hdirect : a.direct headers docs = .ok records := eq_ok_getD (by decide +kernel)
  have hdocs : ∀ d ∈ docs, d.value.floatFree = true ∧ d.bytes.length < 0x8000000000000000 := by
    decide +kernel
  have hportable : ∀ d ∈ docs, Portable d := fun d hd =>
    ⟨(hdocs d hd).1, Json.depth_of_parseLines hp d hd, (hdocs d hd).2⟩
  obtain ⟨folded, emitted, hf, hr, -⟩ := direct_eq_ok_iff.mp hdirect
  have hemitted := (aggregate_documents hportable).mpr ⟨folded, hf, hr⟩
  have hpanic : HeadersPanic (.aggregator a)
      ⟨headers, Wire.encodeCollection (docs.map Document.bytes)⟩ :=
    ⟨announce_contentType w.headers .batch, ⟨emitted, hemitted⟩, _, rfl⟩
  refine ⟨docs, records, hp, hdocs, by decide +kernel, hdirect, by decide +kernel, ?_, ?_⟩
  · rintro request reply hrequest hanswer
    obtain rfl : _ = request := (List.cons.inj hrequest).1
    have hreply := requestReply_eq_ok_iff.mpr hanswer
    have haborted := requestReply_of_headersPanic hpanic
    exact absurd (haborted.symm.trans hreply) nofun
  · rw [Client.exchange, hp]
    exact callAll_of_headersPanic hpanic

end WindowGateway
