import Mathlib.Data.List.Perm.Basic
import WindowGateway.Proofs.Builtin.Release
import WindowGateway.Proofs.Builtin.Tally
import WindowGateway.Udf

/-! What the detection of fraud reports. Every item counts for its card, counts never leave 64 bits,
and no folded table can make the release fail; so a call succeeds just if every item names a card,
and it reports the cards that come more often than the threshold says. -/

namespace WindowGateway

open Wire (CollectionBytes decodeCollection_eq_ok_iff encodeCollection)
open Json (Document Value)

/-- Keeping values by a test filters the list of values. -/
theorem OrderedMap.values_retain {α : Type} (t : OrderedMap α) (p : α → Bool) :
    (t.retain fun _ v => if p v then some v else none).values = t.values.filter p := by
  rw [values, values, entries_retain, List.filter_map]
  rfl

namespace Builtin

/-! ### Items and records -/

/-- An item that names a card. -/
def CardItem (bytes : List UInt8) (card : String) : Prop :=
  ∃ d, ItemHolds bytes d ∧ HasKey d "card_number" card

/-- The record of a card: the bounds of the window, the card, and how often it came. -/
def CardRecord (headers : Headers) (cards : List String) (card : String) (record : Document) :
    Prop :=
  ∃ h, record.value = .object (boundsOf headers ++
    [("card_number", .string card), ("count", .number (.integer (cards.count card) h))])

/-- The cards that came more often than `threshold`, in the order in which each came first. -/
def reported (threshold : Nat) (cards : List String) : List String :=
  cards.eraseDups.filter fun card => threshold < cards.count card

/-- What one more authorization contributes. -/
def authorization (card : String) : Contribution := ⟨card, 1, [("card_number", .ofString card)]⟩

section Cards

variable {headers : Headers} {cards : List String} {card : String} {items : List (List UInt8)}

theorem authorizationCount_eq_ok_iff {d : Document} {c : Contribution} :
    authorizationCount.contribution d = .ok c ↔
      ∃ card, HasKey d "card_number" card ∧ authorization card = c := by
  show (keyField d "card_number" >>= fun card => pure (authorization card)) = .ok c ↔ _
  simp only [← keyField_eq_ok_iff]
  cases keyField d "card_number" with
  | error fault =>
    constructor
    · intro h
      cases h
    · rintro ⟨card, hcard, _⟩
      cases hcard
  | ok card =>
    constructor
    · intro h
      exact ⟨card, rfl, Except.ok.inj h⟩
    · rintro ⟨card', hcard, hc⟩
      obtain rfl : card = card' := Except.ok.inj hcard
      exact congrArg Except.ok hc

theorem authorizationCount_proper : authorizationCount.Proper := by
  intro d c hc
  obtain ⟨card, _, rfl⟩ := authorizationCount_eq_ok_iff.mp hc
  show ("from" :: "to" :: (["card_number"] ++ ["count"])).Nodup
  decide

theorem keyField_of_contribution {d : Document} {fault : FieldFault}
    (hd : authorizationCount.contribution d = .error fault) :
    keyField d "card_number" = .error fault := by
  have hbind : (keyField d "card_number" >>= fun card => pure (authorization card)) =
      .error fault := hd
  cases hk : keyField d "card_number" with
  | error fault' =>
    rw [hk] at hbind
    exact congrArg Except.error (Except.error.inj hbind)
  | ok card =>
    rw [hk] at hbind
    cases hbind

/-- Items can be counted just if each names a card. -/
theorem forall₂_reads_iff {cs : List Contribution} :
    List.Forall₂ authorizationCount.Reads items cs ↔
      ∃ cards, List.Forall₂ CardItem items cards ∧ cards.map authorization = cs := by
  constructor
  · intro h
    induction h with
    | nil => exact ⟨[], .nil, rfl⟩
    | cons hitem _ ih =>
      obtain ⟨d, hholds, hd⟩ := hitem
      obtain ⟨card, hkey, rfl⟩ := authorizationCount_eq_ok_iff.mp hd
      obtain ⟨cards, hcards, rfl⟩ := ih
      exact ⟨card :: cards, .cons ⟨d, hholds, hkey⟩ hcards, rfl⟩
  · rintro ⟨cards, hcards, rfl⟩
    rw [List.forall₂_map_right_iff]
    refine hcards.imp fun bytes card hitem => ?_
    obtain ⟨d, hholds, hkey⟩ := hitem
    exact ⟨d, hholds, authorizationCount_eq_ok_iff.mpr ⟨card, hkey, rfl⟩⟩

theorem rightUnique_cardItem : Relator.RightUnique CardItem := by
  rintro bytes card other ⟨d, hd, hcard⟩ ⟨d', hd', hother⟩
  obtain rfl : d = d' := hd.unique hd'
  exact hcard.unique hother

theorem rightUnique_cardRecord : Relator.RightUnique (CardRecord headers cards) := by
  rintro card record other ⟨_, hrecord⟩ ⟨_, hother⟩
  exact Document.ext (hrecord.trans hother.symm)

/-! ### Counts -/

theorem keysOf_authorizations : keysOf (cards.map authorization) = cards.eraseDups := by
  rw [keysOf, List.map_map]
  exact congrArg List.eraseDups (List.map_id cards)

theorem amountsOf_authorizations :
    amountsOf card (cards.map authorization) = List.replicate (cards.count card) 1 := by
  rw [amountsOf, List.filter_map, List.map_map]
  show (cards.filter (· = card)).map (fun _ => (1 : Int)) = _
  rw [List.filter_eq, List.map_replicate]

theorem totalOf_authorizations : totalOf card (cards.map authorization) = cards.count card := by
  rw [totalOf, amountsOf_authorizations, List.sum_replicate_int, Int.mul_one]

/-- Counts stay in 64 bits as long as a batch has no more items than they can count. -/
theorem bounded_authorizations (h : cards.length ≤ 0x7FFFFFFFFFFFFFFF) :
    Bounded (cards.map authorization) := by
  intro card front hfront
  rw [amountsOf_authorizations] at hfront
  have hones : ∀ n ∈ front, n = 1 := fun n hn =>
    List.eq_of_mem_replicate (hfront.subset hn)
  have hlength : front.length ≤ cards.length := by
    have hle := hfront.length_le
    rw [List.length_replicate] at hle
    exact Nat.le_trans hle List.count_le_length
  rw [List.eq_replicate_of_mem hones, List.sum_replicate_int, Int.mul_one, IsInt64]
  omega

theorem cardRecord_of_isRecord {record : Document}
    (h : IsRecord headers "count" (cards.map authorization) card record) :
    CardRecord headers cards card record := by
  obtain ⟨first, hfirst, hrange, hvalue⟩ := h
  obtain ⟨hmem, hkey⟩ := mem_of_firstOf? hfirst
  obtain ⟨card', _, rfl⟩ := List.mem_map.mp hmem
  obtain rfl : card' = card := hkey
  rw [totalOf_authorizations] at hrange
  refine ⟨hrange, ?_⟩
  simp only [totalOf_authorizations, frontOf, List.append_assoc] at hvalue
  exact hvalue

/-! ### The release -/

variable {folded : RecordTable}

/-- The count of every record can be read. -/
theorem invalidCount?_eq_none {cs : List Contribution} (ht : Tallied headers "count" cs folded) :
    invalidCount? folded = none := by
  refine invalidCount?_eq_none_iff.mpr fun e he => ?_
  have hcount := ht.integerField (OrderedMap.mem_entries_iff.mp he)
  exact ⟨_, integerField_eq_ok_iff.mp hcount⟩

theorem release_counted (threshold : Nat)
    (ht : Tallied headers "count" (cards.map authorization) folded) :
    ∃ emitted, (fraudThreshold threshold).release folded = .ok emitted ∧
      List.Forall₂ (CardRecord headers cards) (reported threshold cards) emitted.values := by
  let Counted (card : String) (record : Document) : Prop :=
    CardRecord headers cards card record ∧ integerField record "count" = .ok (cards.count card)
  have hvalues : List.Forall₂ Counted cards.eraseDups folded.values := by
    rw [← keysOf_authorizations, ← ht.keys]
    refine OrderedMap.forall₂_keys_values fun card record hget => ⟨?_, ?_⟩
    · exact cardRecord_of_isRecord (ht.records card record hget)
    · rw [ht.integerField hget, totalOf_authorizations]
  have htest : ∀ card record, Counted card record →
      (decide (threshold < cards.count card) = true ↔ exceeds threshold record = true) := by
    rintro card record ⟨_, hcount⟩
    rw [exceeds, hcount]
    simp
  have hkept := List.rel_filter (fun card record h => htest card record h) hvalues
  refine ⟨folded.retain fun _ record => if exceeds threshold record then some record else none,
    ?_, ?_⟩
  · rw [release_eq, invalidCount?_eq_none ht]
  · rw [OrderedMap.values_retain]
    exact hkept.imp fun _ _ h => h.1

end Cards

/-! ### Other orders -/

section Orders

variable {cards others : List String}

theorem perm_reported (threshold : Nat) (h : cards.Perm others) :
    (reported threshold cards).Perm (reported threshold others) := by
  simp only [reported, h.count_eq]
  exact (eraseDups_perm h).filter _

theorem cardRecord_perm (headers : Headers) (h : cards.Perm others) :
    CardRecord headers cards = CardRecord headers others := by
  funext card record
  rw [CardRecord, CardRecord, h.count_eq]

end Orders

end Builtin

open Builtin

/-! ### Replies -/

/-- How a call for the detection of fraud ends. -/
def detect (threshold : Nat) (headers : Headers) (payload : List UInt8) :
    Except Interruption Envelope :=
  ((Udf.fraudDetection.handler threshold).answer ⟨headers, payload⟩).result

/-- A reply with the records of the cards that are reported, in the order in which each came
first. -/
def CardReply (threshold : Nat) (headers : Headers) (cards : List String)
    (records : List Document) (reply : Envelope) : Prop :=
  List.Forall₂ (CardRecord headers cards) (reported threshold cards) records ∧
    reply = ⟨OrderedMap.empty.insert Headers.contentType "multipart/json",
      encodeCollection (records.map Document.bytes)⟩

/-- A call reports the cards of a batch that come more often than the threshold says. It fails only
where an item names no card: no count overflows, and the release never fails. The order of the items
has no say in whether it fails, nor in which records it reports. -/
structure ReportsCards (threshold : Nat) (headers : Headers) (payload : List UInt8)
    (items : List (List UInt8)) : Prop where
  succeeds : (∃ reply, detect threshold headers payload = .ok reply) ↔
    ∃ cards, List.Forall₂ CardItem items cards
  counts : detect threshold headers payload ≠
    .error (.error (.hook .accumulate (FieldFault.overflow "count").message))
  releases : ∀ text, detect threshold headers payload ≠ .error (.error (.hook .finalize text))
  emits : ∀ reply cards, detect threshold headers payload = .ok reply →
    List.Forall₂ CardItem items cards → ∃ records, CardReply threshold headers cards records reply
  orderless : ∀ other others, CollectionBytes other others → items.Perm others →
    ((∃ reply, detect threshold headers other = .ok reply) ↔
      ∃ reply, detect threshold headers payload = .ok reply) ∧
    ∀ reply reply', detect threshold headers payload = .ok reply →
      detect threshold headers other = .ok reply' →
      ∃ cards cards' records records', CardReply threshold headers cards records reply ∧
        CardReply threshold headers cards' records' reply' ∧ records.Perm records'

section Replies

variable {threshold : Nat} {headers : Headers} {payload : List UInt8} {items : List (List UInt8)}
  {cards : List String}

theorem ending_detect (threshold : Nat) (headers : Headers) (payload : List UInt8) :
    Ending { accumulate := authorizationCount.accumulate, finalize := fraudThreshold threshold }
      ⟨headers, payload⟩ (detect threshold headers payload) :=
  ending_answer _ _

/-- A batch of items that each name a card is answered. -/
theorem detect_of_cards (threshold : Nat) (ha : headers.Announce .batch)
    (hitems : CollectionBytes payload items) (hn : items.length ≤ 0x7FFFFFFFFFFFFFFF)
    (hcards : List.Forall₂ CardItem items cards) :
    ∃ records reply, detect threshold headers payload = .ok reply ∧
      CardReply threshold headers cards records reply := by
  let a : Aggregator :=
    { accumulate := authorizationCount.accumulate, finalize := fraudThreshold threshold }
  have hd := decodeCollection_eq_ok_iff.mpr hitems
  have hreads := forall₂_reads_iff.mpr ⟨cards, hcards, rfl⟩
  have hbounded := bounded_authorizations (hcards.length_eq ▸ hn)
  obtain ⟨folded, hfold, ht⟩ :=
    fold_tally headers authorizationCount_proper hreads hbounded
  obtain ⟨emitted, hrelease, hrecords⟩ := release_counted threshold ht
  have he : (a.aggregate headers payload).result = .ok emitted :=
    aggregate_eq_ok_iff.mpr ⟨items, folded, hd, hfold, hrelease⟩
  have hanswer : detect threshold headers payload = .ok _ := answer_of_aggregate_ok ha he rfl
  exact ⟨emitted.values, _, hanswer, hrecords, rfl⟩

/-- Only such a batch goes past the fold. -/
theorem cards_of_fold {folded : RecordTable}
    (hfold : (fold authorizationCount.accumulate headers items).result = .ok folded) :
    ∃ cards, List.Forall₂ CardItem items cards := by
  obtain ⟨cs, hcs, _⟩ := tally_of_fold authorizationCount_proper hfold
  obtain ⟨cards, hcards, _⟩ := forall₂_reads_iff.mp hcs
  exact ⟨cards, hcards⟩

theorem detect_eq_ok_iff (ha : headers.Announce .batch) (hitems : CollectionBytes payload items)
    (hn : items.length ≤ 0x7FFFFFFFFFFFFFFF) {reply : Envelope} :
    detect threshold headers payload = .ok reply ↔
      ∃ cards records, List.Forall₂ CardItem items cards ∧
        CardReply threshold headers cards records reply := by
  constructor
  · intro hreply
    obtain ⟨_, decoded, folded, _, hdecoded, hfold, _⟩ := stages_of_reply hreply
    obtain rfl : items = decoded := hitems.unique hdecoded
    obtain ⟨cards, hcards⟩ := cards_of_fold hfold
    obtain ⟨records, reply', hreply', hrecords⟩ := detect_of_cards threshold ha hitems hn hcards
    obtain rfl : reply = reply' := Except.ok.inj (hreply.symm.trans hreply')
    exact ⟨cards, records, hcards, hrecords⟩
  · rintro ⟨cards, records, hcards, hrecords, rfl⟩
    obtain ⟨records', reply', hreply', hrecords', rfl⟩ :=
      detect_of_cards threshold ha hitems hn hcards
    obtain rfl : records = records' := rightUnique_cardRecord.forall₂ hrecords hrecords'
    exact hreply'

/-- No fold over a batch ends in the overflow of a count. -/
theorem fold_counts (hn : items.length ≤ 0x7FFFFFFFFFFFFFFF) :
    (fold authorizationCount.accumulate headers items).result ≠
      .error (.hook .accumulate (FieldFault.overflow "count").message) := by
  intro hfold
  have hfails := fails_of_fold authorizationCount_proper hfold
  generalize he : CallError.hook .accumulate (FieldFault.overflow "count").message = e at hfails
  cases hfails with
  | malformed => cases he
  | unread hd =>
    exact overflow_ne_of_keyField (keyField_of_contribution hd) (CallError.hook.inj he).2
  | overflow hfront hreads hbounded =>
    obtain ⟨cards, hcards, rfl⟩ := forall₂_reads_iff.mp hreads
    refine hbounded (bounded_authorizations ?_)
    rw [← hcards.length_eq]
    exact Nat.le_trans hfront.length_le hn

theorem detect_counts (hitems : CollectionBytes payload items)
    (hn : items.length ≤ 0x7FFFFFFFFFFFFFFF) :
    detect threshold headers payload ≠
      .error (.error (.hook .accumulate (FieldFault.overflow "count").message)) := by
  intro herror
  have hending := ending_detect threshold headers payload
  rw [herror] at hending
  cases hending with
  | unfolded _ hd hf =>
    obtain rfl : items = _ := hitems.unique (decodeCollection_eq_ok_iff.mp hd)
    exact fold_counts hn hf

theorem detect_released (ha : headers.Announce .batch) (hitems : CollectionBytes payload items)
    (hn : items.length ≤ 0x7FFFFFFFFFFFFFFF) (text : String) :
    detect threshold headers payload ≠ .error (.error (.hook .finalize text)) := by
  intro herror
  have hending := ending_detect threshold headers payload
  rw [herror] at hending
  cases hending with
  | unfolded _ _ hf => obtain ⟨_, _, he⟩ | ⟨_, he⟩ := ofFold_of_fold hf <;> cases he
  | unreleased _ hd hf _ =>
    obtain rfl : items = _ := hitems.unique (decodeCollection_eq_ok_iff.mp hd)
    obtain ⟨cards, hcards⟩ := cards_of_fold hf
    obtain ⟨_, _, hreply, _⟩ := detect_of_cards threshold ha hitems hn hcards
    rw [herror] at hreply
    cases hreply

/-- A batch in another order is reported by the same records, in their own order. -/
theorem perm_records {cards others : List String} {records : List Document} {reply : Envelope}
    (h : cards.Perm others) (hr : CardReply threshold headers cards records reply)
    {records' : List Document} {reply' : Envelope}
    (hr' : CardReply threshold headers others records' reply') : records.Perm records' := by
  have hrecords := hr'.1
  rw [← cardRecord_perm headers h] at hrecords
  exact List.rel_perm_imp rightUnique_cardRecord hr.1 hrecords (perm_reported threshold h)

theorem detect_orderless (ha : headers.Announce .batch) (hitems : CollectionBytes payload items)
    (hn : items.length ≤ 0x7FFFFFFFFFFFFFFF) {other : List UInt8} {others : List (List UInt8)}
    (hothers : CollectionBytes other others) (hperm : items.Perm others) {reply : Envelope}
    (hreply : detect threshold headers payload = .ok reply) :
    ∃ reply' cards cards' records records', detect threshold headers other = .ok reply' ∧
      CardReply threshold headers cards records reply ∧
      CardReply threshold headers cards' records' reply' ∧ records.Perm records' := by
  have hn' : others.length ≤ 0x7FFFFFFFFFFFFFFF := hperm.length_eq ▸ hn
  obtain ⟨cards, records, hcards, hrecords⟩ := (detect_eq_ok_iff ha hitems hn).mp hreply
  obtain ⟨cards', hcards', hp⟩ := List.perm_comp_forall₂ hperm.symm hcards
  obtain ⟨records', reply', hreply', hrecords'⟩ := detect_of_cards threshold ha hothers hn' hcards'
  exact ⟨reply', cards, cards', records, records', hreply', hrecords, hrecords',
    perm_records hp.symm hrecords hrecords'⟩

theorem fraudDetection_reportsCards (threshold : Nat) (ha : headers.Announce .batch)
    (hitems : CollectionBytes payload items) (hn : items.length ≤ 0x7FFFFFFFFFFFFFFF) :
    ReportsCards threshold headers payload items where
  succeeds := by
    constructor
    · rintro ⟨reply, hreply⟩
      obtain ⟨cards, _, hcards, _⟩ := (detect_eq_ok_iff ha hitems hn).mp hreply
      exact ⟨cards, hcards⟩
    · rintro ⟨cards, hcards⟩
      obtain ⟨_, reply, hreply, _⟩ := detect_of_cards threshold ha hitems hn hcards
      exact ⟨reply, hreply⟩
  counts := detect_counts hitems hn
  releases := detect_released ha hitems hn
  emits reply cards hreply hcards := by
    obtain ⟨cards', records, hcards', hrecords⟩ := (detect_eq_ok_iff ha hitems hn).mp hreply
    obtain rfl : cards = cards' := rightUnique_cardItem.forall₂ hcards hcards'
    exact ⟨records, hrecords⟩
  orderless other others hothers hperm := by
    have hn' : others.length ≤ 0x7FFFFFFFFFFFFFFF := hperm.length_eq ▸ hn
    refine ⟨⟨?_, ?_⟩, fun reply reply' hreply hreply' => ?_⟩
    · rintro ⟨reply, hreply⟩
      obtain ⟨reply', _, _, _, _, hreply', _⟩ :=
        detect_orderless ha hothers hn' hitems hperm.symm hreply
      exact ⟨reply', hreply'⟩
    · rintro ⟨reply, hreply⟩
      obtain ⟨reply', _, _, _, _, hreply', _⟩ := detect_orderless ha hitems hn hothers hperm hreply
      exact ⟨reply', hreply'⟩
    · obtain ⟨found, cards, cards', records, records', hfound, h⟩ :=
        detect_orderless ha hitems hn hothers hperm hreply
      obtain rfl : reply' = found := Except.ok.inj (hreply'.symm.trans hfound)
      exact ⟨cards, cards', records, records', h⟩

/-- Two authorizations of one card and one of another, of which the threshold lets the first
through. -/
theorem fraudDetection_reportsCards_two :
    let items := [Text.bytes "\x7b\"card_number\":\"a\"\x7d",
      Text.bytes "\x7b\"card_number\":17\x7d", Text.bytes "\x7b\"card_number\":\"a\"\x7d"]
    let headers : Headers := OrderedMap.empty.insert Headers.contentType "multipart/json"
    headers.Announce .batch ∧ CollectionBytes (encodeCollection items) items ∧
      items.length ≤ 0x7FFFFFFFFFFFFFFF ∧
      ReportsCards 1 headers (encodeCollection items) items := by
  intro items headers
  have ha : headers.Announce .batch := ⟨"multipart/json", rfl, by decide⟩
  have hitems : CollectionBytes (encodeCollection items) items :=
    Wire.collectionBytes_encodeCollection (by decide +kernel)
  exact ⟨ha, hitems, by decide, fraudDetection_reportsCards 1 ha hitems (by decide)⟩

end Replies

end WindowGateway
