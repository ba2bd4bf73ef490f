import WindowGateway.Wire.Varint

/-! The byte strings of variable-length integers, as a grammar. The reader takes exactly such a
string from the front of its input, and the writer produces one for every number below `2^64`. -/

namespace WindowGateway.Wire

/-- The bytes of a number, at most `limit` of them. A last byte at the limit is 0 or 1. -/
inductive VarintBytes : Nat → List UInt8 → Nat → Prop
  | last {limit : Nat} {b : UInt8} (low : b < 0x80) (fits : limit = 0 → b ≤ 1) :
      VarintBytes (limit + 1) [b] b.toNat
  | more {limit : Nat} {b : UInt8} {bs : List UInt8} {n : Nat} (high : 0x80 ≤ b)
      (tail : VarintBytes limit bs n) :
      VarintBytes (limit + 1) (b :: bs) (b.toNat - 0x80 + 0x80 * n)

theorem VarintBytes.ne_nil {limit n : Nat} {bs : List UInt8} (h : VarintBytes limit bs n) :
    bs ≠ [] := by
  cases h <;> simp

/-- Reading needs no more than the bytes of the number, whatever follows them. -/
theorem VarintBytes.read {limit n : Nat} {bs : List UInt8} (h : VarintBytes limit bs n)
    (rest : List UInt8) : readVarintUpTo limit (bs ++ rest) = some (n, rest) := by
  induction h with
  | @last limit b low fits =>
    have hfits : ¬(limit = 0 ∧ 1 < b) := fun ⟨h0, h1⟩ => UInt8.not_lt.mpr (fits h0) h1
    simp [readVarintUpTo, low, hfits]
  | @more limit b bs n high tail ih =>
    have hhigh : ¬b < 0x80 := UInt8.not_lt.mpr high
    simp [readVarintUpTo, hhigh, ih]

theorem varintBytes_of_read {limit n : Nat} {s rest : List UInt8}
    (h : readVarintUpTo limit s = some (n, rest)) :
    ∃ bs, s = bs ++ rest ∧ VarintBytes limit bs n := by
  induction limit generalizing s n with
  | zero => simp [readVarintUpTo] at h
  | succ limit ih =>
    cases s with
    | nil => simp [readVarintUpTo] at h
    | cons b s =>
      rw [readVarintUpTo] at h
      by_cases hb : b < 0x80
      · by_cases hfits : limit = 0 ∧ 1 < b
        · simp [hb, hfits] at h
        · obtain ⟨rfl, rfl⟩ : b.toNat = n ∧ s = rest := by simpa [hb, hfits] using h
          exact ⟨[b], rfl, .last hb fun h0 => UInt8.not_lt.mp fun h1 => hfits ⟨h0, h1⟩⟩
      · rw [if_neg hb] at h
        cases hr : readVarintUpTo limit s with
        | none => simp [hr] at h
        | some r =>
          obtain ⟨m, t⟩ := r
          obtain ⟨rfl, rfl⟩ : b.toNat - 0x80 + 0x80 * m = n ∧ t = rest := by simpa [hr] using h
          obtain ⟨bs, rfl, hbs⟩ := ih hr
          exact ⟨b :: bs, rfl, .more (UInt8.not_lt.mp hb) hbs⟩

/-- How many numbers fit in one byte more than `limit`. -/
def varintCapacity : Nat → Nat
  | 0 => 2
  | limit + 1 => 0x80 * varintCapacity limit

theorem varintCapacity_pos (limit : Nat) : 0 < varintCapacity limit := by
  cases limit with
  | zero => decide
  | succ limit => exact Nat.mul_pos (by decide) (varintCapacity_pos limit)

/-- No more bytes than the limit, no greater number than they have room for. -/
theorem VarintBytes.lt_capacity {limit n : Nat} {bs : List UInt8}
    (h : VarintBytes (limit + 1) bs n) : n < varintCapacity limit := by
  induction limit generalizing bs n with
  | zero =>
    cases h with
    | last low fits => exact Nat.lt_succ_of_le (UInt8.le_iff_toNat_le.mp (fits rfl))
    | more high tail => cases tail
  | succ limit ih =>
    rw [varintCapacity]
    cases h with
    | last low fits =>
      have hlow := UInt8.lt_iff_toNat_lt.mp low
      have hpos := varintCapacity_pos limit
      simp only [UInt8.toNat_ofNat] at hlow
      omega
    | @more _ b _ m high tail =>
      have hm := ih tail
      have hb := b.toNat_lt
      omega

theorem writeVarint_of_lt {n : Nat} (h : n < 0x80) : writeVarint n = [UInt8.ofNat n] := by
  rw [writeVarint, if_pos h]

theorem writeVarint_of_le {n : Nat} (h : 0x80 ≤ n) :
    writeVarint n = UInt8.ofNat (0x80 + n % 0x80) :: writeVarint (n / 0x80) := by
  rw [writeVarint, if_neg (by omega)]

theorem varintBytes_last_ofNat {limit n : Nat} (h : n < 0x80) (hfits : limit = 0 → n < 2) :
    VarintBytes (limit + 1) [UInt8.ofNat n] n := by
  have hn : (UInt8.ofNat n).toNat = n := by rw [UInt8.toNat_ofNat']; omega
  have hlast : VarintBytes (limit + 1) [UInt8.ofNat n] (UInt8.ofNat n).toNat := by
    refine .last ?_ fun h0 => ?_
    · rw [UInt8.lt_iff_toNat_lt, hn]; exact h
    · rw [UInt8.le_iff_toNat_le, hn]; exact Nat.le_of_lt_succ (hfits h0)
  rwa [hn] at hlast

theorem varintBytes_writeVarint (limit : Nat) {n : Nat} (h : n < varintCapacity limit) :
    VarintBytes (limit + 1) (writeVarint n) n := by
  induction limit generalizing n with
  | zero =>
    have hn : n < 2 := h
    rw [writeVarint_of_lt (by omega)]
    exact varintBytes_last_ofNat (by omega) fun _ => hn
  | succ limit ih =>
    by_cases hlow : n < 0x80
    · rw [writeVarint_of_lt hlow]
      exact varintBytes_last_ofNat hlow fun h0 => absurd h0 (by omega)
    · rw [writeVarint_of_le (by omega)]
      have hdiv : n / 0x80 < varintCapacity limit := by
        rw [varintCapacity] at h
        omega
      have hb : (UInt8.ofNat (0x80 + n % 0x80)).toNat = 0x80 + n % 0x80 := by
        rw [UInt8.toNat_ofNat']; omega
      have hmore : VarintBytes (limit + 1 + 1)
          (UInt8.ofNat (0x80 + n % 0x80) :: writeVarint (n / 0x80))
          ((UInt8.ofNat (0x80 + n % 0x80)).toNat - 0x80 + 0x80 * (n / 0x80)) := by
        refine .more ?_ (ih hdiv)
        rw [UInt8.le_iff_toNat_le, hb]
        exact Nat.le_add_right 0x80 _
      have hvalue : 0x80 + n % 0x80 - 0x80 + 0x80 * (n / 0x80) = n := by omega
      rwa [hb, hvalue] at hmore

/-- The writer's bytes are those of the number, if 64 bits can hold it. -/
theorem varintBytes_writeVarint_uint64 {n : Nat} (h : n < 0x10000000000000000) :
    VarintBytes 10 (writeVarint n) n :=
  varintBytes_writeVarint 9 h

/-- Where the writer's bytes can be read at all, they are read as the number they were written
for. -/
theorem eq_of_readVarintUpTo_writeVarint {limit n m : Nat} {s rest : List UInt8}
    (h : readVarintUpTo limit (writeVarint n ++ s) = some (m, rest)) : m = n ∧ rest = s := by
  induction limit generalizing n m rest with
  | zero => simp [readVarintUpTo] at h
  | succ limit ih =>
    by_cases hlow : n < 0x80
    · have hn : (UInt8.ofNat n).toNat = n := by rw [UInt8.toNat_ofNat']; omega
      have hb : UInt8.ofNat n < 0x80 := by rw [UInt8.lt_iff_toNat_lt, hn]; exact hlow
      rw [writeVarint_of_lt hlow, List.singleton_append, readVarintUpTo, if_pos hb] at h
      split at h
      · cases h
      · obtain ⟨hm, hrest⟩ := Prod.mk.inj (Option.some.inj h)
        exact ⟨hm.symm.trans hn, hrest.symm⟩
    · have hb : (UInt8.ofNat (0x80 + n % 0x80)).toNat = 0x80 + n % 0x80 := by
        rw [UInt8.toNat_ofNat']; omega
      have hhigh : ¬UInt8.ofNat (0x80 + n % 0x80) < 0x80 := by
        rw [UInt8.lt_iff_toNat_lt, hb]
        exact Nat.not_lt.mpr (Nat.le_add_right 0x80 _)
      rw [writeVarint_of_le (Nat.not_lt.mp hlow), List.cons_append, readVarintUpTo,
        if_neg hhigh] at h
      split at h
      · cases h
      · next k t hread =>
        obtain ⟨rfl, rfl⟩ := ih hread
        obtain ⟨hm, hrest⟩ := Prod.mk.inj (Option.some.inj h)
        rw [hb] at hm
        exact ⟨by omega, hrest.symm⟩

end WindowGateway.Wire
