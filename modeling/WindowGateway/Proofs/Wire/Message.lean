import WindowGateway.Proofs.OrderedMap
import WindowGateway.Proofs.Text.Utf8
import WindowGateway.Proofs.Wire.RoundTrip
import WindowGateway.Wire.Message

/-! Messages read back: an envelope that is written with its headers in any order is read as the
same envelope, empty names, empty values and an empty payload included, which the wire form leaves
out. Only a length that 64 bits cannot hold keeps a message from being read. -/

namespace WindowGateway.Wire

/-! ### Delimited fields -/

theorem readText_write {text : String} (h : (Text.bytes text).length < 0x10000000000000000)
    (s : List UInt8) :
    readText .lengthDelimited (writeVarint (Text.bytes text).length ++ (Text.bytes text ++ s)) =
      .ok (text, s) := by
  rw [readText, readDelimited_write, if_pos h]
  simp only [Text.ofBytes_bytes]

theorem writeUnlessEmpty_of_ne_nil (field : Nat) {value : List UInt8} (h : value ≠ []) :
    writeUnlessEmpty field value = writeDelimited field value := by
  rw [writeUnlessEmpty, if_neg (by simpa using h)]

theorem readKey_writeDelimited {field : Nat} (hpos : 0 < field) (h : field < 0x10000000)
    (value s : List UInt8) :
    readKey (writeDelimited field value ++ s) =
      .ok (⟨field, .lengthDelimited⟩, writeVarint value.length ++ (value ++ s)) := by
  rw [writeDelimited, List.append_assoc, List.append_assoc]
  exact (reads_key _ _ _).mpr ⟨_, rfl, keyBytes_delimited hpos h⟩

theorem length_lt_writeDelimited (field : Nat) (value : List UInt8) :
    value.length < (writeDelimited field value).length := by
  have hpos : 0 < (writeVarint value.length).length :=
    List.length_pos_iff.mpr (by rw [writeVarint]; split <;> simp)
  simp only [writeDelimited, List.length_append]
  omega

/-! ### Header entries -/

/-- The fields of a header entry. -/
def headerFields (header : String × String) : List UInt8 :=
  writeUnlessEmpty 1 (Text.bytes header.1) ++ writeUnlessEmpty 2 (Text.bytes header.2)

/-- A header with the text of a field of its entry: its name is field 1, and its value field 2. -/
def withField (header : String × String) (field : Nat) (text : String) : String × String :=
  if field = 1 then (text, header.2) else (header.1, text)

section Entry

variable {field : Nat} {text : String} {header : String × String} {fuel : Nat}
  {rest s : List UInt8}

theorem readEntryFields_end (header : String × String) :
    readEntryFields s.length fuel header s = .ok (header, s) := by
  cases fuel <;> simp [readEntryFields]

theorem readEntryFields_field (hfield : field = 1 ∨ field = 2)
    (hsize : (Text.bytes text).length < 0x10000000000000000) (hrest : rest.length ≤ s.length) :
    readEntryFields rest.length (fuel + 1) header (writeDelimited field (Text.bytes text) ++ s) =
      readEntryFields rest.length fuel (withField header field text) s := by
  have hlength := length_lt_writeDelimited field (Text.bytes text)
  have hinside : ¬(writeDelimited field (Text.bytes text) ++ s).length ≤ rest.length := by
    rw [List.length_append]
    omega
  rw [readEntryFields, if_neg hinside, readKey_writeDelimited (by omega) (by omega)]
  rcases hfield with rfl | rfl
  · simp only [if_true, readText_write hsize]
    rfl
  · have hother : ¬(2 : Nat) = 1 := by decide
    simp only [if_neg hother, if_true, readText_write hsize]
    rfl

/-- A field is read whether or not it is there: what is left out is what the header has already. -/
theorem readEntryFields_unlessEmpty (header : String × String) (text : String) (fuel : Nat)
    (hfield : field = 1 ∨ field = 2)
    (hsize : (Text.bytes text).length < 0x10000000000000000) (hrest : rest.length ≤ s.length)
    (hdefault : withField header field "" = header)
    (hfuel : (writeUnlessEmpty field (Text.bytes text)).length ≤ fuel) :
    ∃ left, fuel ≤ left + (writeUnlessEmpty field (Text.bytes text)).length ∧
      readEntryFields rest.length fuel header (writeUnlessEmpty field (Text.bytes text) ++ s) =
        readEntryFields rest.length left (withField header field text) s := by
  by_cases hempty : Text.bytes text = []
  · obtain rfl := Text.bytes_eq_nil_iff.mp hempty
    rw [hdefault]
    exact ⟨fuel, Nat.le_add_right _ _, rfl⟩
  · rw [writeUnlessEmpty_of_ne_nil field hempty] at hfuel ⊢
    have hlength := length_lt_writeDelimited field (Text.bytes text)
    obtain ⟨left, rfl⟩ : ∃ k, fuel = k + 1 := ⟨fuel - 1, by omega⟩
    exact ⟨left, by omega, readEntryFields_field hfield hsize hrest⟩

theorem length_le_writeUnlessEmpty (field : Nat) (value : List UInt8) :
    value.length ≤ (writeUnlessEmpty field value).length := by
  by_cases hempty : value = []
  · simp [hempty]
  · rw [writeUnlessEmpty_of_ne_nil field hempty]
    exact Nat.le_of_lt (length_lt_writeDelimited field value)

theorem readEntryFields_headerFields (hsize : (headerFields header).length < 0x10000000000000000)
    (hfuel : (headerFields header).length ≤ fuel) :
    readEntryFields rest.length fuel ("", "") (headerFields header ++ rest) =
      .ok (header, rest) := by
  obtain ⟨name, value⟩ := header
  have hname := length_le_writeUnlessEmpty 1 (Text.bytes name)
  have hvalue := length_le_writeUnlessEmpty 2 (Text.bytes value)
  simp only [headerFields, List.length_append] at hsize hfuel
  let tail := writeUnlessEmpty 2 (Text.bytes value) ++ rest
  have htail : rest.length ≤ tail.length := by
    rw [List.length_append]
    omega
  obtain ⟨left, hleft, hfirst⟩ := readEntryFields_unlessEmpty ("", "") name fuel (.inl rfl)
    (by omega) htail rfl (by omega)
  obtain ⟨last, -, hsecond⟩ := readEntryFields_unlessEmpty (name, "") value left (.inr rfl)
    (by omega) (Nat.le_refl rest.length) rfl (by omega)
  rw [headerFields, List.append_assoc, hfirst]
  exact hsecond.trans (readEntryFields_end (name, value))

/-- An entry is read as the header for which it was written, if 64 bits can hold its length. -/
theorem readEntry_write (header : String × String) (rest : List UInt8) :
    readEntry (writeVarint (headerFields header).length ++ (headerFields header ++ rest)) =
      if (headerFields header).length < 0x10000000000000000 then .ok (header, rest)
      else .error .invalidVarint := by
  rw [readEntry, readVarint_writeVarint]
  by_cases hsize : (headerFields header).length < 0x10000000000000000
  · rw [if_pos hsize, if_pos hsize]
    have hinside : ¬(headerFields header ++ rest).length < (headerFields header).length := by
      rw [List.length_append]
      omega
    have hafter : (headerFields header ++ rest).length - (headerFields header).length =
        rest.length := by
      rw [List.length_append]
      omega
    simp only [if_neg hinside, hafter]
    refine readEntryFields_headerFields hsize ?_
    rw [List.length_append]
    omega
  · rw [if_neg hsize, if_neg hsize]

end Entry

/-! ### Messages -/

section Message

variable {fuel : Nat} {e f : Envelope} {s : List UInt8}

theorem decodeFields_of_ne_nil (h : s ≠ []) :
    decodeFields (fuel + 1) e s =
      match outside (readKey s) with
      | .error f => .error f
      | .ok (key, s) =>
        if key.field = 1 then
          match inField "GrpcMessage.payload" (readDelimited key.wireType s) with
          | .error f => .error f
          | .ok (payload, s) => decodeFields fuel { e with payload } s
        else if key.field = 2 then
          match inField "GrpcMessage.headers" (readEntry s) with
          | .error f => .error f
          | .ok ((name, value), s) =>
            decodeFields fuel { e with headers := e.headers.insert name value } s
        else
          match outside (skipField maxLevels key s) with
          | .error f => .error f
          | .ok s => decodeFields fuel e s := by
  cases s with
  | nil => exact absurd rfl h
  | cons b s => rfl

theorem writeDelimited_append_ne_nil (field : Nat) (value s : List UInt8) :
    writeDelimited field value ++ s ≠ [] := by
  refine List.append_ne_nil_of_left_ne_nil (List.ne_nil_of_length_pos ?_) s
  exact Nat.lt_of_le_of_lt (Nat.zero_le _) (length_lt_writeDelimited field value)

theorem decodeFields_payload (payload s : List UInt8) :
    decodeFields (fuel + 1) e (writeDelimited 1 payload ++ s) =
      if payload.length < 0x10000000000000000 then decodeFields fuel { e with payload } s
      else .error ⟨some "GrpcMessage.payload", .invalidVarint⟩ := by
  rw [decodeFields_of_ne_nil (writeDelimited_append_ne_nil 1 payload s),
    readKey_writeDelimited (by decide) (by decide)]
  simp only [outside_ok, if_true, readDelimited_write]
  by_cases h : payload.length < 0x10000000000000000
  · simp only [if_pos h, inField_ok]
  · simp only [if_neg h, inField_error]

theorem decodeFields_header (header : String × String) (s : List UInt8) :
    decodeFields (fuel + 1) e (encodeHeader header ++ s) =
      if (headerFields header).length < 0x10000000000000000 then
        decodeFields fuel { e with headers := e.headers.insert header.1 header.2 } s
      else .error ⟨some "GrpcMessage.headers", .invalidVarint⟩ := by
  have hencode : encodeHeader header = writeDelimited 2 (headerFields header) := rfl
  have hother : ¬(2 : Nat) = 1 := by decide
  rw [hencode, decodeFields_of_ne_nil (writeDelimited_append_ne_nil 2 _ s),
    readKey_writeDelimited (by decide) (by decide)]
  simp only [outside_ok, if_neg hother, if_true, readEntry_write]
  by_cases h : (headerFields header).length < 0x10000000000000000
  · simp only [if_pos h, inField_ok]
  · simp only [if_neg h, inField_error]

/-- A payload is read whether or not it is there, if 64 bits can hold its length. -/
theorem decodeFields_unlessEmpty {payload : List UInt8} (hdefault : e.payload = [])
    (hfuel : (writeUnlessEmpty 1 payload).length ≤ fuel) :
    ∃ left, fuel ≤ left + (writeUnlessEmpty 1 payload).length ∧
      decodeFields fuel e (writeUnlessEmpty 1 payload ++ s) =
        if payload.length < 0x10000000000000000 then decodeFields left { e with payload } s
        else .error ⟨some "GrpcMessage.payload", .invalidVarint⟩ := by
  by_cases hempty : payload = []
  · obtain ⟨headers, _⟩ := e
    subst hempty hdefault
    exact ⟨fuel, Nat.le_add_right _ _, (if_pos (by decide)).symm⟩
  · rw [writeUnlessEmpty_of_ne_nil 1 hempty] at hfuel ⊢
    have hlength := length_lt_writeDelimited 1 payload
    obtain ⟨left, rfl⟩ : ∃ k, fuel = k + 1 := ⟨fuel - 1, by omega⟩
    exact ⟨left, by omega, decodeFields_payload payload s⟩

/-- Entries are read in their order, each if 64 bits can hold its length. -/
theorem decodeFields_headers_eq_ok_iff {order : List (String × String)}
    (hfuel : (order.flatMap encodeHeader).length ≤ fuel) :
    decodeFields fuel e (order.flatMap encodeHeader) = .ok f ↔
      (∀ header ∈ order, (headerFields header).length < 0x10000000000000000) ∧
        f = { e with headers := order.foldl (fun t h => t.insert h.1 h.2) e.headers } := by
  induction order generalizing fuel e with
  | nil =>
    have hend : decodeFields fuel e [] = .ok e := by cases fuel <;> rfl
    rw [List.flatMap_nil, hend]
    simp [eq_comm]
  | cons header order ih =>
    rw [List.flatMap_cons, List.length_append] at hfuel
    have hlength : (headerFields header).length < (encodeHeader header).length :=
      length_lt_writeDelimited 2 (headerFields header)
    obtain ⟨fuel, rfl⟩ : ∃ k, fuel = k + 1 := ⟨fuel - 1, by omega⟩
    rw [List.flatMap_cons, decodeFields_header, List.forall_mem_cons, List.foldl_cons]
    by_cases h : (headerFields header).length < 0x10000000000000000
    · rw [if_pos h, ih (by omega)]
      simp only [h, true_and]
    · rw [if_neg h]
      simp [h]

/-- 64 bits can hold every length that the wire form of an envelope has in it: that of its payload,
and for each header that of the entry, which is greater than those of its name and value. -/
def FitsMessage (e : Envelope) : Prop :=
  e.payload.length < 0x10000000000000000 ∧
    ∀ header ∈ e.headers.entries, (headerFields header).length < 0x10000000000000000

instance (e : Envelope) : Decidable (FitsMessage e) :=
  inferInstanceAs (Decidable (_ ∧ ∀ header ∈ e.headers.entries, _))

theorem length_writeVarint_le (n : Nat) : (writeVarint n).length ≤ n / 0x80 + 1 := by
  induction n using Nat.strongRecOn with
  | ind n ih =>
    rw [writeVarint]
    split
    · simp
    · have hrest := ih (n / 0x80) (by omega)
      rw [List.length_cons]
      omega

theorem length_writeUnlessEmpty_le {field : Nat} (h : field < 0x10) (value : List UInt8) :
    (writeUnlessEmpty field value).length ≤ value.length + value.length / 0x80 + 2 := by
  rw [writeUnlessEmpty]
  split
  · simp
  · have hkey := length_writeVarint_le (8 * field + 2)
    have hlength := length_writeVarint_le value.length
    simp only [writeDelimited, List.length_append]
    omega

/-- The keys and lengths of an entry take few bytes. -/
theorem fitsMessage_of_lengths (hpayload : e.payload.length < 0x10000000000000000)
    (hheaders : ∀ header ∈ e.headers.entries,
      (Text.bytes header.1).length + (Text.bytes header.2).length < 0x8000000000000000) :
    FitsMessage e := by
  refine ⟨hpayload, fun header hheader => ?_⟩
  have hname := @length_writeUnlessEmpty_le 1 (by decide) (Text.bytes header.1)
  have hvalue := @length_writeUnlessEmpty_le 2 (by decide) (Text.bytes header.2)
  have htogether := hheaders header hheader
  rw [headerFields, List.length_append]
  omega

/-- An envelope is read as it was written, if 64 bits can hold its lengths, and else not at all. -/
theorem decodeMessage_encodeMessage_eq_ok_iff :
    decodeMessage (encodeMessage e) = .ok f ↔ FitsMessage e ∧ f = e := by
  obtain ⟨headers, payload⟩ := e
  have hlength : (writeUnlessEmpty 1 payload ++ headers.entries.flatMap encodeHeader).length =
      (writeUnlessEmpty 1 payload).length + (headers.entries.flatMap encodeHeader).length :=
    List.length_append
  obtain ⟨left, hleft, hfirst⟩ := decodeFields_unlessEmpty (e := ⟨.empty, []⟩) rfl
    (s := headers.entries.flatMap encodeHeader) (Nat.le.intro hlength.symm)
  rw [decodeMessage, encodeMessage, hfirst, FitsMessage]
  by_cases hpayload : payload.length < 0x10000000000000000
  · rw [if_pos hpayload, decodeFields_headers_eq_ok_iff (by omega), ← OrderedMap.ofList,
      headers.ofList_entries]
    exact and_congr_left' (iff_and_self.mpr fun _ => hpayload)
  · rw [if_neg hpayload]
    constructor
    · intro h
      cases h
    · rintro ⟨hfits, -⟩
      exact absurd hfits.1 hpayload

theorem fitsMessage_congr {sent : Envelope} (hpayload : sent.payload = e.payload)
    (horder : sent.headers.entries.Perm e.headers.entries) : FitsMessage sent ↔ FitsMessage e := by
  rw [FitsMessage, FitsMessage, hpayload]
  exact and_congr_right' (forall_congr' fun _ => imp_congr horder.mem_iff Iff.rfl)

end Message

/-- An envelope whose headers are sent in whatever order comes back with the same payload and the
same headers. It comes back at all just if 64 bits can hold every length in its wire form, as they
can if they hold that of the payload, and each name is shorter than `2^63` bytes together with its
value. -/
theorem encodeMessage_roundTrip {e sent : Envelope} (hpayload : sent.payload = e.payload)
    (horder : sent.headers.entries.Perm e.headers.entries) :
    ((∃ back, decodeMessage (encodeMessage sent) = .ok back) ↔ FitsMessage e) ∧
    ∀ back, decodeMessage (encodeMessage sent) = .ok back →
      back.payload = e.payload ∧ back.headers.entries.Perm e.headers.entries ∧
      ∀ name, back.headers.get? name = e.headers.get? name := by
  rw [← fitsMessage_congr hpayload horder]
  constructor
  · constructor
    · rintro ⟨back, hback⟩
      exact (decodeMessage_encodeMessage_eq_ok_iff.mp hback).1
    · intro hfits
      exact ⟨sent, decodeMessage_encodeMessage_eq_ok_iff.mpr ⟨hfits, rfl⟩⟩
  · intro back hback
    obtain ⟨-, rfl⟩ := decodeMessage_encodeMessage_eq_ok_iff.mp hback
    exact ⟨hpayload, horder, OrderedMap.get?_of_perm horder⟩

/-- No payload, a header without a name, one without a value, and one in another alphabet, sent the
last first. -/
theorem encodeMessage_roundTrip_reversed :
    let e : Envelope :=
      ⟨OrderedMap.ofList [("", "x"), ("contentType", ""), ("ключ\n", "значение")], []⟩
    let sent : Envelope := ⟨OrderedMap.ofList e.headers.entries.reverse, []⟩
    sent.payload = e.payload ∧ sent.headers.entries.Perm e.headers.entries ∧
      ∃ back, decodeMessage (encodeMessage sent) = .ok back ∧ back.payload = [] ∧
        back.headers.get? "" = some "x" ∧ back.headers.get? "contentType" = some "" ∧
        back.headers.get? "ключ\n" = some "значение" := by
  intro e sent
  have hreversed : sent.headers.entries = e.headers.entries.reverse := by decide +kernel
  have horder : sent.headers.entries.Perm e.headers.entries :=
    hreversed ▸ List.reverse_perm e.headers.entries
  have hfits : FitsMessage e := fitsMessage_of_lengths (by decide) (by decide +kernel)
  have hroundTrip := @encodeMessage_roundTrip e sent rfl horder
  obtain ⟨back, hback⟩ := hroundTrip.1.mpr hfits
  obtain ⟨hpayload, -, hget⟩ := hroundTrip.2 back hback
  refine ⟨rfl, horder, back, hback, hpayload, ?_, ?_, ?_⟩
  · rw [hget]
    decide +kernel
  · rw [hget]
    decide +kernel
  · rw [hget]
    decide +kernel

end WindowGateway.Wire
