import Mathlib.Data.List.Forall2
import WindowGateway.Proofs.Call.Containment
import WindowGateway.Proofs.Client.Transparency

/-! Sending documents one by one to a mapping gives what its hook gives directly on each of them, in
their order. The first document on which the hook does not return ends the sending, and then nothing
that came before it is returned. -/

namespace WindowGateway

open Json (Document)

/-- A document whose text reads back: no floating-point number in it, and no deeper nesting than the
reader allows. -/
structure Readable (d : Document) : Prop where
  floatFree : d.value.floatFree = true
  depth : d.value.depth ≤ Json.maxDepth

instance (d : Document) : Decidable (Readable d) :=
  decidable_of_iff (d.value.floatFree = true ∧ d.value.depth ≤ Json.maxDepth)
    ⟨fun h => ⟨h.1, h.2⟩, fun h => ⟨h.floatFree, h.depth⟩⟩

section Documents

variable {map : MapDocument} {headers : Headers} {d : Document} {docs : List Document}

/-! ### One document -/

theorem answer_document (map : MapDocument) (ha : headers.Announce .document) (hd : Readable d) :
    ((Handler.mapper map).answer ⟨headers, d.bytes⟩).result =
      match map headers d with
      | .error fault => .error (.error (.hook .map fault.text))
      | .ok mapped =>
        .ok ⟨OrderedMap.empty.insert Headers.contentType Framing.document.contentType,
          mapped.bytes⟩ := by
  have hitem := decodeItem_bytes hd.floatFree hd.depth 0
  exact (answer_accepted (h := .mapper map) ha).trans (mapReply_decoded map hitem)

theorem replyDocuments_document (headers : Headers) (hd : Readable d) :
    Client.replyDocuments
      ⟨headers.insert Headers.contentType Framing.document.contentType, d.bytes⟩ = .ok [d] := by
  have hframing : Client.framingOf Framing.document.contentType = .ok .document := rfl
  simp only [Client.replyDocuments, OrderedMap.get?_insert_self, hframing,
    Document.parse_bytes hd.floatFree hd.depth]

/-! ### One after the other -/

/-- The requests for documents that go one by one. -/
def singleRequests (headers : Headers) (docs : List Document) : List Envelope :=
  docs.map fun d => ⟨headers, d.bytes⟩

theorem callAll_mapped (ha : headers.Announce .document) (hd : Readable d) {mapped : Document}
    (hmap : map headers d = .ok mapped) (hmapped : Readable mapped) :
    Client.callAll (requestReply (.mapper map)) (singleRequests headers (d :: docs)) =
      (Client.callAll (requestReply (.mapper map)) (singleRequests headers docs)).map
        (mapped :: ·) := by
  have hanswer := answer_document map ha hd
  rw [hmap] at hanswer
  rw [singleRequests, List.map_cons, Client.callAll, requestReply_eq_ok_iff.mpr hanswer]
  simp only [replyDocuments_document _ hmapped]
  rfl

theorem callAll_failed (ha : headers.Announce .document) (hd : Readable d) {fault : HookFault}
    (hmap : map headers d = .error fault) :
    Client.callAll (requestReply (.mapper map)) (singleRequests headers (d :: docs)) =
      .error (.rejected (CallError.hook .map fault.text).status) := by
  have hanswer := answer_document map ha hd
  rw [hmap] at hanswer
  rw [singleRequests, List.map_cons, Client.callAll, requestReply_of_error hanswer]

section Run

variable (ha : headers.Announce .document) (hdocs : ∀ d ∈ docs, Readable d)
  (hmapped : ∀ d ∈ docs, ∀ r, map headers d = .ok r → Readable r)
include ha hdocs hmapped

/-- All documents come back just if the hook returns on all of them, each as what it gives. -/
theorem callAll_documents_eq_ok_iff {records : List Document} :
    Client.callAll (requestReply (.mapper map)) (singleRequests headers docs) = .ok records ↔
      List.Forall₂ (fun d r => map headers d = .ok r) docs records := by
  induction docs generalizing records with
  | nil =>
    rw [List.forall₂_nil_left_iff]
    exact ⟨fun h => (Except.ok.inj h).symm, fun h => congrArg Except.ok h.symm⟩
  | cons d docs ih =>
    rw [List.forall_mem_cons] at hdocs hmapped
    have htail := @ih hdocs.2 hmapped.2
    rw [List.forall₂_cons_left_iff]
    cases hmap : map headers d with
    | error fault =>
      rw [callAll_failed ha hdocs.1 hmap]
      simp
    | ok mapped =>
      rw [callAll_mapped ha hdocs.1 hmap (hmapped.1 mapped hmap)]
      constructor
      · intro h
        obtain ⟨rest, hrest, rfl⟩ := map_eq_ok_iff.mp h
        exact ⟨mapped, rest, rfl, htail.mp hrest, rfl⟩
      · rintro ⟨r, rest, hr, hrest, rfl⟩
        obtain rfl := Except.ok.inj hr
        rw [htail.mpr hrest]
        rfl

theorem callAll_first_failure {before after : List Document} {fault : HookFault}
    (hsplit : docs = before ++ d :: after) (hbefore : ∀ b ∈ before, ∃ r, map headers b = .ok r)
    (hmap : map headers d = .error fault) :
    Client.callAll (requestReply (.mapper map)) (singleRequests headers docs) =
      .error (.rejected (CallError.hook .map fault.text).status) := by
  subst hsplit
  induction before with
  | nil => exact callAll_failed ha (hdocs d List.mem_cons_self) hmap
  | cons b before ih =>
    rw [List.cons_append, List.forall_mem_cons] at hdocs hmapped
    rw [List.forall_mem_cons] at hbefore
    obtain ⟨r, hr⟩ := hbefore.1
    rw [List.cons_append, callAll_mapped ha hdocs.1 hr (hmapped.1 r hr),
      ih hbefore.2 hdocs.2 hmapped.2]
    rfl

end Run

end Documents

/-- Sending the documents of a text one by one and reading the replies gives one document for each,
the one that the hook gives on it directly. Where the hook fails or panics, the first document on
which it does so decides: the call for it is rejected, and no earlier reply is returned. -/
theorem exchange_documents (map : MapDocument) (input : String) (w : Window)
    {docs : List Document} (hp : Json.parseLines input = .ok docs)
    (hdocs : ∀ d ∈ docs, d.value.floatFree = true)
    (hmapped : ∀ d ∈ docs, ∀ r,
      map (w.headers.insert Headers.contentType "application/json") d = .ok r → Readable r) :
    let headers : Headers := w.headers.insert Headers.contentType "application/json"
    let sent := Client.exchange (requestReply (.mapper map)) .document w input
    (∀ records, sent = .ok records ↔
      List.Forall₂ (fun d r => map headers d = .ok r) docs records) ∧
    ∀ before d after fault, docs = before ++ d :: after →
      (∀ b ∈ before, ∃ r, map headers b = .ok r) → map headers d = .error fault →
      sent = .error (.rejected (CallError.hook .map fault.text).status) := by
  intro headers sent
  have ha : headers.Announce .document := announce_contentType w.headers .document
  have hreadable : ∀ d ∈ docs, Readable d := fun d hd =>
    ⟨hdocs d hd, Json.depth_of_parseLines hp d hd⟩
  have hsent : sent =
      Client.callAll (requestReply (.mapper map)) (singleRequests headers docs) := by
    show Client.exchange (requestReply (.mapper map)) .document w input = _
    rw [Client.exchange, hp]
    rfl
  rw [hsent]
  exact ⟨fun records => callAll_documents_eq_ok_iff ha hreadable hmapped,
    fun before d after fault => callAll_first_failure ha hreadable hmapped⟩

/-- A hook that panics on all but texts: two texts with a blank line between them come back, and
nothing comes back if a number follows. -/
theorem exchange_documents_texts :
    let map : MapDocument := fun headers d =>
      match d.string? with
      | some s => .ok (.ofItems [.ofString s, .ofOptionalString (headers.get? Headers.windowEnd)])
      | none => .error (.panicked ⟨none⟩)
    let w : Window := ⟨none, some "9"⟩
    let headers : Headers := w.headers.insert Headers.contentType "application/json"
    let sent := Client.exchange (requestReply (.mapper map)) .document w
    let fit := fun docs : List Document => (∀ d ∈ docs, d.value.floatFree = true) ∧
      ∀ d ∈ docs, ∀ r, map headers d = .ok r → Readable r
    let texts := "\"a\"\n\n\"\\u00df\""
    let mixed := "\"a\"\n\n\"\\u00df\"\n7\n\"b\""
    (∃ docs records, Json.parseLines texts = .ok docs ∧ fit docs ∧ sent texts = .ok records ∧
      records.map Document.render = ["[\"a\",\"9\"]", "[\"ß\",\"9\"]"]) ∧
    ∃ docs, Json.parseLines mixed = .ok docs ∧ fit docs ∧
      sent mixed = .error
        (.rejected (CallError.hook .map "hook panicked: non-string panic payload").status) := by
  intro map w headers sent fit texts mixed
  have hfit : ∀ docs : List Document, (∀ d ∈ docs, d.value.floatFree = true) →
      (∀ d ∈ docs, ∀ r ∈ (map headers d).toOption, Readable r) → fit docs := fun _ hdocs hmapped =>
    ⟨hdocs, fun d hd r hr => hmapped d hd r (toOption_eq_some_iff.mpr hr)⟩
  constructor
  · let docs := (Json.parseLines texts).toOption.getD []
    let records := docs.map fun d => (map headers d).toOption.getD .null
    have hp : Json.parseLines texts = .ok docs := eq_ok_getD (by decide +kernel)
    have hdocs : fit docs := hfit docs (by decide +kernel) (by decide +kernel)
    have hsome : ∀ d ∈ docs, (map headers d).toOption.isSome = true := by decide +kernel
    have hall : List.Forall₂ (fun d r => map headers d = .ok r) docs records := by
      rw [List.forall₂_map_right_iff, List.forall₂_same]
      exact fun d hd => eq_ok_getD (hsome d hd)
    have hexchange := exchange_documents map texts w hp hdocs.1 hdocs.2
    exact ⟨docs, records, hp, hdocs, (hexchange.1 records).mpr hall, by decide +kernel⟩
  · let docs := (Json.parseLines mixed).toOption.getD []
    have hp : Json.parseLines mixed = .ok docs := eq_ok_getD (by decide +kernel)
    have hdocs : fit docs := hfit docs (by decide +kernel) (by decide +kernel)
    have hlength : 2 < docs.length := by decide +kernel
    have hsplit : docs = docs.take 2 ++ docs.getD 2 .null :: docs.drop 3 := by
      rw [List.getD_eq_getElem?_getD, List.getElem?_eq_getElem hlength, Option.getD_some,
        ← List.drop_eq_getElem_cons, List.take_append_drop]
    have hsome : ∀ d ∈ docs.take 2, (map headers d).toOption.isSome = true := by decide +kernel
    have hnone : (docs.getD 2 .null).string? = none := by decide +kernel
    have hexchange := exchange_documents map mixed w hp hdocs.1 hdocs.2
    refine ⟨docs, hp, hdocs, hexchange.2 _ _ _ (.panicked ⟨none⟩) hsplit ?_ ?_⟩
    · intro b hb
      exact ⟨_, eq_ok_getD (a := .null) (hsome b hb)⟩
    · simp only [map, hnone]

end WindowGateway
