import WindowGateway.Proofs.Wire.Grammar

/-! Collections read back: decoding what was encoded yields the items, whatever bytes they hold, so
that no two lists of items have the same encoding. -/

namespace WindowGateway.Wire

/-- No item is longer than a buffer can be. -/
def Fits (items : List (List UInt8)) : Prop := ∀ item ∈ items, item.length < 0x8000000000000000

instance (items : List (List UInt8)) : Decidable (Fits items) :=
  inferInstanceAs (Decidable (∀ item ∈ items, _))

theorem keyBytes_delimited {field : Nat} (hpos : 0 < field) (h : field < 0x10000000) :
    KeyBytes (writeVarint (8 * field + 2)) ⟨field, .lengthDelimited⟩ := by
  have htype : WireType.ofNat? ((8 * field + 2) % 8) = some .lengthDelimited := by
    rw [Nat.mul_add_mod]
    rfl
  have hfield : (8 * field + 2) / 8 = field := by omega
  have hkey : KeyBytes (writeVarint (8 * field + 2)) ⟨(8 * field + 2) / 8, .lengthDelimited⟩ :=
    .mk (varintBytes_writeVarint_uint64 (by omega)) (by omega) htype (by omega)
  rwa [hfield] at hkey

theorem keyBytes_item : KeyBytes (writeVarint 0x0A) ⟨1, .lengthDelimited⟩ :=
  @keyBytes_delimited 1 (by decide) (by decide)

theorem delimitedBytes_write {value : List UInt8} (h : value.length < 0x8000000000000000) :
    DelimitedBytes (writeVarint value.length ++ value) value :=
  .mk (varintBytes_writeVarint_uint64 (by omega))

theorem encodeCollection_cons (item : List UInt8) (items : List (List UInt8)) :
    encodeCollection (item :: items) =
      writeVarint 0x0A ++ ((writeVarint item.length ++ item) ++ encodeCollection items) := by
  simp [encodeCollection, writeDelimited]

theorem collectionBytes_encodeCollection {items : List (List UInt8)} (h : Fits items) :
    CollectionBytes (encodeCollection items) items := by
  induction items with
  | nil => exact .nil
  | cons item items ih =>
    have hitem := h item List.mem_cons_self
    have hitems : Fits items := fun other hmem => h other (List.mem_cons_of_mem _ hmem)
    rw [encodeCollection_cons]
    exact .item keyBytes_item (delimitedBytes_write hitem) (ih hitems)

theorem decodeCollection_encodeCollection {items : List (List UInt8)} (h : Fits items) :
    decodeCollection (encodeCollection items) = .ok items :=
  decodeCollection_eq_ok_iff.mpr (collectionBytes_encodeCollection h)

theorem readVarint_writeVarint (n : Nat) (s : List UInt8) :
    readVarint (writeVarint n ++ s) =
      if n < 0x10000000000000000 then .ok (n, s) else .error .invalidVarint := by
  split
  · next h =>
    have hread := (varintBytes_writeVarint_uint64 h).read s
    rw [readVarint, readVarint?, hread]
  · next h =>
    rw [readVarint]
    cases hread : readVarint? (writeVarint n ++ s) with
    | none => rfl
    | some r =>
      obtain ⟨m, rest⟩ := r
      -- Read at all, it would be read as `n`, for which ten bytes have no room.
      obtain ⟨rfl, _⟩ := eq_of_readVarintUpTo_writeVarint hread
      obtain ⟨bs, _, hbs⟩ := varintBytes_of_read hread
      exact absurd hbs.lt_capacity h

/-- A value is read as it was written, if 64 bits can hold its length, and else not at all. -/
theorem readDelimited_write (value s : List UInt8) :
    readDelimited .lengthDelimited (writeVarint value.length ++ (value ++ s)) =
      if value.length < 0x10000000000000000 then .ok (value, s) else .error .invalidVarint := by
  rw [readDelimited, if_pos rfl, readBytes, readVarint_writeVarint]
  by_cases h : value.length < 0x10000000000000000
  · rw [if_pos h, if_pos h]
    exact takeBytes_eq_ok_iff.mpr ⟨rfl, rfl⟩
  · rw [if_neg h, if_neg h]

/-- The bytes of an item are read as the item, where they can be read at all. -/
theorem eq_of_readDelimited_write {t : WireType} {item value s rest : List UInt8}
    (h : readDelimited t (writeVarint item.length ++ item ++ s) = .ok (value, rest)) :
    value = item ∧ rest = s := by
  obtain ⟨rfl, -⟩ := readDelimited_eq_ok_iff.mp h
  rw [List.append_assoc, readDelimited_write] at h
  split at h
  · cases h
    exact ⟨rfl, rfl⟩
  · cases h

theorem eq_of_decodeItems_encode {items all : List (List UInt8)} {fuel : Nat}
    {done : List (List UInt8)} (h : decodeItems fuel done (encodeCollection items) = .ok all) :
    all = done.reverse ++ items := by
  induction items generalizing fuel done with
  | nil =>
    have hnil : decodeItems fuel done [] = .ok done.reverse := by cases fuel <;> rfl
    rw [List.append_nil]
    exact Except.ok.inj (h.symm.trans hnil)
  | cons item items ih =>
    rw [encodeCollection_cons] at h
    let body := writeVarint item.length ++ item ++ encodeCollection items
    have hkey : readKey (writeVarint 0x0A ++ body) = .ok (⟨1, .lengthDelimited⟩, body) :=
      (reads_key _ _ _).mpr ⟨_, rfl, keyBytes_item⟩
    have hne : writeVarint 0x0A ++ body ≠ [] :=
      List.append_ne_nil_of_left_ne_nil keyBytes_item.ne_nil _
    cases fuel with
    | zero =>
      obtain ⟨b, bs, hb⟩ := List.exists_cons_of_ne_nil hne
      rw [hb] at h
      cases h
    | succ fuel =>
      rw [decodeItems_of_ne_nil hne, hkey] at h
      simp only [outside_ok, if_true] at h
      cases hv : readDelimited .lengthDelimited body with
      | error f => simp [hv] at h
      | ok r =>
        obtain ⟨value, rest⟩ := r
        obtain ⟨rfl, rfl⟩ := eq_of_readDelimited_write hv
        simp only [hv, inField_ok] at h
        rw [ih h, List.reverse_cons, List.append_assoc, List.singleton_append]

/-- Whatever its items hold, a collection is never read as other items than were written. -/
theorem eq_of_decodeCollection_encodeCollection {items others : List (List UInt8)}
    (h : decodeCollection (encodeCollection items) = .ok others) : others = items :=
  eq_of_decodeItems_encode h

/-- Decoding inverts encoding, and so encoding is injective. -/
theorem encodeCollection_roundTrip {items : List (List UInt8)} (h : Fits items) :
    decodeCollection (encodeCollection items) = .ok items ∧
      ∀ others, Fits others → encodeCollection others = encodeCollection items →
        others = items := by
  have hread := decodeCollection_encodeCollection h
  refine ⟨hread, fun others hothers heq => ?_⟩
  have hother := decodeCollection_encodeCollection hothers
  rw [heq, hread] at hother
  exact (Except.ok.inj hother).symm

theorem encodeCollection_roundTrip_mixed :
    let items : List (List UInt8) :=
      [[], [0xFF, 0xFE], [0xFF, 0xFE], encodeCollection [[], [0x0A]], List.replicate 200 0x80]
    Fits items ∧ decodeCollection (encodeCollection items) = .ok items ∧
      ∀ others, Fits others → encodeCollection others = encodeCollection items →
        others = items := by
  intro items
  have h : Fits items := by decide +kernel
  exact ⟨h, encodeCollection_roundTrip h⟩

end WindowGateway.Wire
