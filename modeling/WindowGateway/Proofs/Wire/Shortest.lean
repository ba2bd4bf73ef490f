import WindowGateway.Proofs.Except
import WindowGateway.Proofs.Wire.RoundTrip

/-! Collections written anew. The encoder spends the fewest bytes that can hold the items: whatever
byte string the decoder read them from, padded numbers and unknown fields among it, is the encoder's
own or longer. -/

namespace WindowGateway.Wire

/-- The bytes are the other ones, or fewer than those. -/
def NoLonger (s t : List UInt8) : Prop := s = t ∨ s.length < t.length

namespace NoLonger

variable {s t s' t' : List UInt8}

theorem refl (s : List UInt8) : NoLonger s s := .inl rfl

theorem length_le (h : NoLonger s t) : s.length ≤ t.length := by
  rcases h with rfl | h
  · exact Nat.le_refl _
  · exact Nat.le_of_lt h

theorem eq_iff (h : NoLonger s t) : s = t ↔ s.length = t.length := by
  constructor
  · exact congrArg List.length
  · intro hlength
    rcases h with heq | hlt
    · exact heq
    · omega

/-- One part that is fewer bytes makes the whole fewer. -/
theorem append (h : NoLonger s t) (h' : NoLonger s' t') : NoLonger (s ++ s') (t ++ t') := by
  rcases h with rfl | hlt
  · rcases h' with rfl | hlt'
    · exact refl _
    · right
      simp only [List.length_append]
      omega
  · have hle := h'.length_le
    right
    simp only [List.length_append]
    omega

theorem append_left (h : NoLonger s t) (front : List UInt8) : NoLonger s (front ++ t) := by
  rcases front with _ | ⟨b, front⟩
  · exact h
  · have hle := h.length_le
    right
    simp only [List.length_append, List.length_cons]
    omega

end NoLonger

/-! ### Numbers -/

/-- A number that is written anew loses the bytes at its end that add nothing to it. -/
theorem VarintBytes.noLonger {limit n : Nat} {bs : List UInt8} (h : VarintBytes limit bs n) :
    NoLonger (writeVarint n) bs := by
  induction h with
  | @last limit b low fits =>
    left
    rw [writeVarint_of_lt (UInt8.lt_iff_toNat_lt.mp low), UInt8.ofNat_toNat]
  | @more limit b bs n high tail ih =>
    have hhigh : 0x80 ≤ b.toNat := UInt8.le_iff_toNat_le.mp high
    have hbyte := b.toNat_lt
    rcases Nat.eq_zero_or_pos n with rfl | hpos
    -- The bytes that follow add nothing, but there are some: the encoder stops here.
    · have hlow : b.toNat - 0x80 + 0x80 * 0 < 0x80 := by omega
      have htail := List.length_pos_iff.mpr tail.ne_nil
      right
      rw [writeVarint_of_lt hlow, List.length_singleton, List.length_cons]
      omega
    · have hle : 0x80 ≤ b.toNat - 0x80 + 0x80 * n := by omega
      have hfirst : 0x80 + (b.toNat - 0x80 + 0x80 * n) % 0x80 = b.toNat := by omega
      have hrest : (b.toNat - 0x80 + 0x80 * n) / 0x80 = n := by omega
      rw [writeVarint_of_le hle, hfirst, hrest, UInt8.ofNat_toNat]
      exact (NoLonger.refl [b]).append ih

theorem wireType_lengthDelimited {n : Nat} (h : WireType.ofNat? n = some .lengthDelimited) :
    n = 2 := by
  unfold WireType.ofNat? at h
  split at h <;> simp_all

theorem KeyBytes.noLonger {bs : List UInt8} (h : KeyBytes bs ⟨1, .lengthDelimited⟩) :
    NoLonger (writeVarint 0x0A) bs := by
  -- The key is an index of `KeyBytes` that is computed there from the number.
  generalize hkey : (⟨1, .lengthDelimited⟩ : Key) = key at h
  rcases h with ⟨hnumber, -, htype, -⟩
  rename_i n t
  obtain ⟨hfield, rfl⟩ : 1 = n / 8 ∧ .lengthDelimited = t := by simpa using hkey
  have hrest := wireType_lengthDelimited htype
  obtain rfl : n = 0x0A := by omega
  exact hnumber.noLonger

theorem DelimitedBytes.noLonger {bs item : List UInt8} (h : DelimitedBytes bs item) :
    NoLonger (writeVarint item.length ++ item) bs := by
  rcases h with ⟨hsize⟩
  exact hsize.noLonger.append (.refl item)

/-! ### Collections -/

section Collections

variable {s : List UInt8} {items : List (List UInt8)}

theorem CollectionBytes.noLonger (h : CollectionBytes s items) :
    NoLonger (encodeCollection items) s := by
  induction h with
  | nil => exact .refl _
  | item key value _ ih =>
    rw [encodeCollection_cons]
    exact key.noLonger.append (value.noLonger.append ih)
  | unknown _ _ _ _ ih => exact (ih.append_left _).append_left _

/-- Items that were read have lengths that can be written. -/
theorem CollectionBytes.encode (h : CollectionBytes s items) :
    CollectionBytes (encodeCollection items) items := by
  induction h with
  | nil => exact .nil
  | item _ value _ ih =>
    rcases value with ⟨hsize⟩
    rw [encodeCollection_cons]
    exact .item keyBytes_item (.mk (varintBytes_writeVarint_uint64 hsize.lt_capacity)) ih
  | unknown _ _ _ _ ih => exact ih

/-- The items are read from the byte string, and from none that is shorter. -/
def IsShortest (s : List UInt8) (items : List (List UInt8)) : Prop :=
  decodeCollection s = .ok items ∧
    ∀ other, decodeCollection other = .ok items → s.length ≤ other.length

/-- The items of a collection are written in no more bytes than they were read from, in as many only
if these are the same bytes. So there is one shortest byte string for them, and the encoder writes
it. -/
theorem encodeCollection_shortest (h : decodeCollection s = .ok items) :
    (encodeCollection items).length ≤ s.length ∧
      (encodeCollection items = s ↔ (encodeCollection items).length = s.length) ∧
      ∀ t, IsShortest t items ↔ t = encodeCollection items := by
  have hbytes := decodeCollection_eq_ok_iff.mp h
  have hencoded : decodeCollection (encodeCollection items) = .ok items :=
    decodeCollection_eq_ok_iff.mpr hbytes.encode
  have hleast : ∀ t, decodeCollection t = .ok items → NoLonger (encodeCollection items) t :=
    fun t ht => (decodeCollection_eq_ok_iff.mp ht).noLonger
  refine ⟨hbytes.noLonger.length_le, hbytes.noLonger.eq_iff, fun t => ⟨?_, ?_⟩⟩
  · rintro ⟨ht, hshortest⟩
    have hle := (hleast t ht).length_le
    exact ((hleast t ht).eq_iff.mpr (Nat.le_antisymm hle (hshortest _ hencoded))).symm
  · rintro rfl
    exact ⟨hencoded, fun t ht => (hleast t ht).length_le⟩

/-- Two items in 20 bytes, with padding in a key and in both lengths, and with a group between
them. They need five. -/
theorem encodeCollection_shortest_padded :
    let s := [0x8A, 0x00, 0x81, 0x80, 0x00, 0x61, 0x13, 0x08, 0x96, 0x01, 0x1B, 0x1C, 0x0A, 0x01,
      0x14, 0x14, 0x0A, 0x80, 0x80, 0x00]
    decodeCollection s = .ok [[0x61], []] ∧ (encodeCollection [[0x61], []]).length < s.length ∧
      ∀ t, IsShortest t [[0x61], []] ↔ t = [0x0A, 0x01, 0x61, 0x0A, 0x00] := by
  intro s
  have hs : decodeCollection s = .ok [[0x61], []] := toOption_eq_some_iff.mp (by decide +kernel)
  have hbytes : encodeCollection [[0x61], []] = [0x0A, 0x01, 0x61, 0x0A, 0x00] := by
    simp [encodeCollection, writeDelimited, writeVarint_of_lt]
  obtain ⟨hle, hiff, hshortest⟩ := encodeCollection_shortest hs
  rw [hbytes] at hle hiff hshortest ⊢
  refine ⟨hs, Nat.lt_of_le_of_ne hle fun hlength => ?_, hshortest⟩
  exact absurd (hiff.mpr hlength) (by decide)

end Collections

end WindowGateway.Wire
