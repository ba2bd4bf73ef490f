import Mathlib.Data.List.Forall2
import WindowGateway.Proofs.Client.ContentType
import WindowGateway.Proofs.Item
import WindowGateway.Proofs.Wire.RoundTrip

/-! Items at the two ends of a call. A gateway looks at an item as text first, and then parses the
text, with no look at the bytes of its string literals; a client parses the bytes as they come, and
looks at those of each literal once its escapes are resolved. Both take the same bytes, and read the
same document from them. -/

namespace WindowGateway

open Json (Document)
open Client (itemDocuments batchDocuments replyDocuments)

variable {index : Nat} {bytes : List UInt8} {items : List (List UInt8)}
  {d : Document} {docs : List Document}

/-- A text and its bytes are read alike: no literal of a text is refused for its bytes. -/
theorem parseText_of_ofBytes {text : String} (h : Text.ofBytes bytes = .ok text) :
    Document.parseText text = Document.parse bytes := by
  rw [Document.parseText_eq, ← Text.ofBytes_eq_ok_iff.mp h]

/-- Bytes that can be read as a document are text, so that to look at the text first refuses
nothing more. -/
theorem parse_ne_of_ofBytes {fault : Text.Utf8Fault} (h : Text.ofBytes bytes = .error fault) :
    Document.parse bytes ≠ .ok d := by
  intro hd
  obtain ⟨cs, hcs⟩ := Document.utf8_of_parse hd
  rw [Text.ofBytes, hcs] at h
  cases h

theorem decodeItem_eq_ok_iff_parse :
    decodeItem index bytes = .ok d ↔ Document.parse bytes = .ok d :=
  decodeItem_eq_ok_iff.trans ⟨ItemHolds.text, fun h => ⟨Document.utf8_of_parse h, h⟩⟩

theorem itemDocuments_eq_ok_iff {k : Nat} :
    itemDocuments k items = .ok docs ↔
      List.Forall₂ (fun item d => decodeItem index item = .ok d) items docs := by
  induction items generalizing k docs with
  | nil =>
    rw [List.forall₂_nil_left_iff]
    exact ⟨fun h => (Except.ok.inj h).symm, fun h => congrArg Except.ok h.symm⟩
  | cons item items ih =>
    rw [List.forall₂_cons_left_iff, itemDocuments]
    simp only [decodeItem_eq_ok_iff_parse] at ih ⊢
    cases Document.parse item with
    | error e => simp
    | ok d =>
      simp only [map_eq_ok_iff, ih, Except.ok.injEq]
      constructor
      · rintro ⟨rest, hrest, rfl⟩
        exact ⟨d, rest, rfl, hrest, rfl⟩
      · rintro ⟨_, rest, rfl, hrest, rfl⟩
        exact ⟨rest, hrest, rfl⟩

/-- The items of a reply, as its content type says. -/
inductive ReplyItems : Envelope → List (List UInt8) → Prop
  | document {headers : Headers} {payload : List UInt8} (announced : headers.Announce .document) :
      ReplyItems ⟨headers, payload⟩ [payload]
  | batch {headers : Headers} {payload : List UInt8} {items : List (List UInt8)}
      (announced : headers.Announce .batch) (collection : Wire.CollectionBytes payload items) :
      ReplyItems ⟨headers, payload⟩ items

/-- The documents of a reply are those that a gateway reads from its items. -/
theorem ReplyItems.documents {reply : Envelope} (h : ReplyItems reply items) (index : Nat) :
    replyDocuments reply = .ok docs ↔
      List.Forall₂ (fun item d => decodeItem index item = .ok d) items docs := by
  cases h with
  | @document _ payload announced =>
    obtain ⟨value, hvalue, hnamed⟩ := announced
    rw [List.forall₂_cons_left_iff]
    simp only [replyDocuments, hvalue, framingOf_eq_ok_iff.mpr hnamed,
      decodeItem_eq_ok_iff_parse, List.forall₂_nil_left_iff]
    cases Document.parse payload with
    | error e => simp
    | ok d => simp [eq_comm]
  | batch announced collection =>
    obtain ⟨value, hvalue, hnamed⟩ := announced
    simp only [replyDocuments, hvalue, framingOf_eq_ok_iff.mpr hnamed, batchDocuments,
      Wire.decodeCollection_eq_ok_iff.mpr collection]
    exact mapError_eq_ok_iff.trans itemDocuments_eq_ok_iff

theorem exists_replyItems {reply : Envelope} (h : replyDocuments reply = .ok docs) :
    ∃ items, ReplyItems reply items := by
  obtain ⟨headers, payload⟩ := reply
  rw [replyDocuments] at h
  split at h
  · cases h
  next value hvalue =>
  split at h
  · cases h
  · next hf =>
    rw [batchDocuments] at h
    split at h
    · cases h
    next items hitems =>
    exact ⟨items, .batch ⟨value, hvalue, framingOf_eq_ok_iff.mp hf⟩
      (Wire.decodeCollection_eq_ok_iff.mp hitems)⟩
  · next hf => exact ⟨[payload], .document ⟨value, hvalue, framingOf_eq_ok_iff.mp hf⟩⟩

/-- The two ends of a call read items alike: what a gateway reads from the bytes of an item, with
whatever index, is what a client reads from the same bytes, when they are the payload of a reply and
when they are an item of its collection. Bytes that are a text give the same document as the text,
or the same fault, and bytes that are none give no document. No reply is read but by its items. -/
structure ReadAlike (index : Nat) : Prop where
  text : ∀ bytes text, Text.ofBytes bytes = .ok text →
    Document.parseText text = Document.parse bytes
  noText : ∀ bytes fault, Text.ofBytes bytes = .error fault → ∀ d, Document.parse bytes ≠ .ok d
  bytes : ∀ bytes d, decodeItem index bytes = .ok d ↔ Document.parse bytes = .ok d
  payload : ∀ headers bytes d, headers.Announce .document →
    (decodeItem index bytes = .ok d ↔ replyDocuments ⟨headers, bytes⟩ = .ok [d])
  collection : ∀ headers payload items docs, headers.Announce .batch →
    Wire.CollectionBytes payload items →
    (List.Forall₂ (fun item d => decodeItem index item = .ok d) items docs ↔
      replyDocuments ⟨headers, payload⟩ = .ok docs)
  reply : ∀ reply docs, replyDocuments reply = .ok docs →
    ∃ items, ReplyItems reply items ∧
      List.Forall₂ (fun item d => decodeItem index item = .ok d) items docs

theorem items_readAlike (index : Nat) : ReadAlike index where
  text _ _ := parseText_of_ofBytes
  noText _ _ h _ := parse_ne_of_ofBytes h
  bytes _ _ := decodeItem_eq_ok_iff_parse
  payload headers bytes d ha := by
    have hreply : ReplyItems ⟨headers, bytes⟩ [bytes] := .document ha
    rw [hreply.documents index, List.forall₂_cons, and_iff_left List.Forall₂.nil]
  collection headers payload items docs ha hitems := by
    have hreply : ReplyItems ⟨headers, payload⟩ items := .batch ha hitems
    exact (hreply.documents index).symm
  reply reply docs h := by
    obtain ⟨items, hitems⟩ := exists_replyItems h
    exact ⟨items, hitems, (hitems.documents index).mp h⟩

/-- A text with a letter that is not ASCII, as it is and as an escape, is read at both ends. The
first byte of such a letter, with an escape in the place of the next, is refused at both. -/
theorem items_readAlike_escape :
    let text : List UInt8 := [0x22, 0xC3, 0xA9, 0x5C, 0x75, 0x30, 0x30, 0x65, 0x39, 0x22]
    let broken : List UInt8 := [0x22, 0xC3, 0x5C, 0x6E, 0x22]
    let headers (f : Framing) : Headers :=
      OrderedMap.empty.insert Headers.contentType f.contentType
    ∃ d, d.render = "\"éé\"" ∧ decodeItem 3 text = .ok d ∧
      replyDocuments ⟨headers .document, text⟩ = .ok [d] ∧
      replyDocuments ⟨headers .batch, Wire.encodeCollection [text, text]⟩ = .ok [d, d] ∧
      ∀ d, decodeItem 3 broken ≠ .ok d ∧ replyDocuments ⟨headers .document, broken⟩ ≠ .ok [d] := by
  intro text broken headers
  have ha (f : Framing) : (headers f).Announce f := announce_contentType _ f
  obtain ⟨_, _, bytes, payload, collection, _⟩ := items_readAlike 3
  have hparse : Document.parse text = .ok ((Document.parse text).toOption.getD default) :=
    eq_ok_getD (by decide +kernel)
  have hd := (bytes text _).mpr hparse
  have hitems : Wire.CollectionBytes (Wire.encodeCollection [text, text]) [text, text] :=
    Wire.collectionBytes_encodeCollection (by decide +kernel)
  refine ⟨_, by decide +kernel, hd, (payload _ _ _ (ha .document)).mp hd,
    (collection _ _ _ _ (ha .batch) hitems).mp (.cons hd (.cons hd .nil)), fun d => ?_⟩
  have hbroken : decodeItem 3 broken ≠ .ok d := by
    rw [Ne, bytes, ← toOption_eq_some_iff]
    have hnone : (Document.parse broken).toOption = none := by decide +kernel
    rw [hnone]
    nofun
  exact ⟨hbroken, fun h => hbroken ((payload _ _ _ (ha .document)).mpr h)⟩

end WindowGateway
