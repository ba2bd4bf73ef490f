import WindowGateway.Proofs.Text.Utf8

/-! Whole characters in bytes. What decodes as UTF-8 is the bytes of what it decodes to, so that
bytes are UTF-8 just if they are a row of whole characters. A boundary is a place in the bytes up to
which there are whole characters only. -/

namespace WindowGateway.Text.Utf8

/-! ### One character -/

/-- A byte that continues a character. -/
def Continues (b : UInt8) : Prop := 0x80 ≤ b.toNat ∧ b.toNat < 0xC0

theorem continuation?_eq_some_iff {b : UInt8} {n : Nat} :
    continuation? b = some n ↔ b.toNat = 0x80 + n ∧ n < 0x40 := by
  rw [continuation?]
  split
  · next h =>
    rw [Option.some.injEq]
    omega
  · next h => exact ⟨fun he => absurd he (by simp), fun he => absurd he (by omega)⟩

/-- After some lead bytes the second byte has fewer values than other continuations. -/
theorem second?_eq_some_iff {lead b : UInt8} {n : Nat} :
    second? lead b = some n ↔ b.toNat = 0x80 + n ∧ n < 0x40 ∧
      (lead.toNat = 0xE0 → 0x20 ≤ n) ∧ (lead.toNat = 0xED → n < 0x20) ∧
      (lead.toNat = 0xF0 → 0x10 ≤ n) ∧ (lead.toNat = 0xF4 → n < 0x10) := by
  rw [second?]
  split
  · next h => exact ⟨fun he => absurd he (by simp), fun he => absurd he (by omega)⟩
  · next h =>
    rw [continuation?_eq_some_iff]
    omega

theorem toNat_char {n : Nat} (h : n < 0xD800 ∨ 0xDFFF < n ∧ n < 0x110000) :
    (Char.ofNat n).toNat = n := by
  rw [Char.ofNat, dif_pos h]
  rfl

theorem ofNat_byte {b : UInt8} {n : Nat} (h : n = b.toNat) : UInt8.ofNat n = b := by
  rw [h, UInt8.ofNat_toNat]

section Decoded

variable {lead b₁ b₂ b₃ : UInt8} {c₁ c₂ c₃ : Nat}

theorem encodeChar_decoded_one (h : lead.toNat < 0x80) :
    encodeChar (Char.ofNat lead.toNat) = [lead] := by
  have hc : (Char.ofNat lead.toNat).toNat = lead.toNat := toNat_char (by omega)
  rw [encodeChar_one (by omega), hc, UInt8.ofNat_toNat]

theorem encodeChar_decoded_two (h : 0xC2 ≤ lead.toNat ∧ lead.toNat < 0xE0)
    (h₁ : second? lead b₁ = some c₁) :
    encodeChar (Char.ofNat ((lead.toNat - 0xC0) * 0x40 + c₁)) = [lead, b₁] := by
  obtain ⟨hb₁, hlt₁, -⟩ := second?_eq_some_iff.mp h₁
  have hc := @toNat_char ((lead.toNat - 0xC0) * 0x40 + c₁) (by omega)
  rw [encodeChar_two (by omega), hc, ofNat_byte (b := lead) (by omega),
    ofNat_byte (b := b₁) (by omega)]

/-- The limits of the second byte keep out overlong forms and surrogates. -/
theorem encodeChar_decoded_three (h : 0xE0 ≤ lead.toNat ∧ lead.toNat < 0xF0)
    (h₁ : second? lead b₁ = some c₁) (h₂ : continuation? b₂ = some c₂) :
    encodeChar (Char.ofNat (((lead.toNat - 0xE0) * 0x40 + c₁) * 0x40 + c₂)) = [lead, b₁, b₂] := by
  obtain ⟨hb₁, hlt₁, hlow, hhigh, -⟩ := second?_eq_some_iff.mp h₁
  obtain ⟨hb₂, hlt₂⟩ := continuation?_eq_some_iff.mp h₂
  have hc := @toNat_char (((lead.toNat - 0xE0) * 0x40 + c₁) * 0x40 + c₂) (by omega)
  rw [encodeChar_three (by omega), hc, ofNat_byte (b := lead) (by omega),
    ofNat_byte (b := b₁) (by omega), ofNat_byte (b := b₂) (by omega)]

theorem encodeChar_decoded_four (h : 0xF0 ≤ lead.toNat ∧ lead.toNat < 0xF5)
    (h₁ : second? lead b₁ = some c₁) (h₂ : continuation? b₂ = some c₂)
    (h₃ : continuation? b₃ = some c₃) :
    encodeChar (Char.ofNat ((((lead.toNat - 0xF0) * 0x40 + c₁) * 0x40 + c₂) * 0x40 + c₃)) =
      [lead, b₁, b₂, b₃] := by
  obtain ⟨hb₁, hlt₁, -, -, hlow, hhigh⟩ := second?_eq_some_iff.mp h₁
  obtain ⟨hb₂, hlt₂⟩ := continuation?_eq_some_iff.mp h₂
  obtain ⟨hb₃, hlt₃⟩ := continuation?_eq_some_iff.mp h₃
  have hc := @toNat_char ((((lead.toNat - 0xF0) * 0x40 + c₁) * 0x40 + c₂) * 0x40 + c₃) (by omega)
  rw [encodeChar_four (by omega), hc, ofNat_byte (b := lead) (by omega),
    ofNat_byte (b := b₁) (by omega), ofNat_byte (b := b₂) (by omega),
    ofNat_byte (b := b₃) (by omega)]

end Decoded

/-- A character is decoded from its own bytes only. -/
theorem eq_encodeChar_of_decodeChar {lead : UInt8} {tail rest : List UInt8} {c : Char}
    (h : decodeChar lead tail = .ok (c, rest)) : lead :: tail = encodeChar c ++ rest := by
  unfold decodeChar at h
  simp only at h
  split at h
  · next h1 =>
    cases h
    rw [encodeChar_decoded_one h1]
    rfl
  split at h
  · cases h
  split at h
  · cases h
  next h1 h2 b₁ tail =>
  split at h
  · cases h
  next c₁ hs₁ =>
  split at h
  · next h3 =>
    cases h
    rw [encodeChar_decoded_two (by omega) hs₁]
    rfl
  split at h
  · cases h
  next h3 b₂ tail =>
  split at h
  · cases h
  next c₂ hs₂ =>
  split at h
  · next h4 =>
    cases h
    rw [encodeChar_decoded_three (by omega) hs₁ hs₂]
    rfl
  split at h
  · cases h
  next h4 b₃ tail =>
  split at h
  · cases h
  next c₃ hs₃ =>
  cases h
  rw [encodeChar_decoded_four (by omega) hs₁ hs₂ hs₃]
  rfl

/-- The bytes of a character are one that continues none, and others that do. -/
theorem encodeChar_cons (c : Char) :
    ∃ lead tail, encodeChar c = lead :: tail ∧ ¬Continues lead ∧ ∀ b ∈ tail, Continues b := by
  have hc := toNat_cases c
  have hcontinues : ∀ n, n < 0x40 → Continues (UInt8.ofNat (0x80 + n)) := fun n hn => by
    rw [Continues, toNat_ofNat (by omega)]
    omega
  have hlead : ∀ n, n < 0x80 ∨ 0xC0 ≤ n ∧ n < 0x100 → ¬Continues (UInt8.ofNat n) := fun n hn => by
    rw [Continues, toNat_ofNat (by omega)]
    omega
  by_cases h1 : c.toNat < 0x80
  · exact ⟨_, _, encodeChar_one h1, hlead _ (by omega), by simp⟩
  by_cases h2 : c.toNat < 0x800
  · refine ⟨_, _, encodeChar_two (by omega), hlead _ (by omega), ?_⟩
    exact List.forall_mem_singleton.mpr (hcontinues _ (by omega))
  by_cases h3 : c.toNat < 0x10000
  · refine ⟨_, _, encodeChar_three (by omega), hlead _ (by omega), ?_⟩
    rw [List.forall_mem_cons, List.forall_mem_singleton]
    exact ⟨hcontinues _ (by omega), hcontinues _ (by omega)⟩
  · refine ⟨_, _, encodeChar_four (by omega), hlead _ (by omega), ?_⟩
    rw [List.forall_mem_cons, List.forall_mem_cons, List.forall_mem_singleton]
    exact ⟨hcontinues _ (by omega), hcontinues _ (by omega), hcontinues _ (by omega)⟩

theorem encodeChar_prefix_unique {c d : Char} {s t : List UInt8}
    (h : encodeChar c ++ s = encodeChar d ++ t) : c = d ∧ s = t := by
  obtain ⟨lead, tail, hc, hread⟩ := decodeChar_encodeChar c s
  obtain ⟨lead', tail', hd, hread'⟩ := decodeChar_encodeChar d t
  obtain ⟨rfl, rfl⟩ := List.cons.inj (hc.symm.trans (h.trans hd))
  exact Prod.mk.inj (Except.ok.inj (hread.symm.trans hread'))

/-! ### Texts -/

theorem eq_encode_of_decodeFrom {total fuel : Nat} {done cs : List Char} {s : List UInt8}
    (h : decodeFrom total fuel done s = .ok cs) :
    ∃ ds, s = encode ds ∧ cs = done.reverse ++ ds := by
  induction fuel generalizing done s with
  | zero =>
    cases s with
    | nil =>
      obtain rfl : done.reverse = cs := by simpa [decodeFrom] using h
      exact ⟨[], rfl, (List.append_nil _).symm⟩
    | cons b s => cases h
  | succ fuel ih =>
    cases s with
    | nil =>
      obtain rfl : done.reverse = cs := by simpa [decodeFrom] using h
      exact ⟨[], rfl, (List.append_nil _).symm⟩
    | cons lead tail =>
      rw [decodeFrom] at h
      split at h
      · next c rest hc =>
        obtain ⟨ds, rfl, rfl⟩ := ih h
        exact ⟨c :: ds, eq_encodeChar_of_decodeChar hc, by simp⟩
      · cases h

/-- Bytes are UTF-8 just if they are the bytes of characters. -/
theorem decode_eq_ok_iff {s : List UInt8} {cs : List Char} : decode s = .ok cs ↔ s = encode cs := by
  constructor
  · intro h
    obtain ⟨ds, rfl, rfl⟩ := eq_encode_of_decodeFrom h
    rfl
  · rintro rfl
    exact decode_encode cs

/-! ### Boundaries -/

/-- The bytes of `s` before `rest` are those of whole characters. -/
def Boundary (s rest : List UInt8) : Prop := ∃ cs, s = encode cs ++ rest

theorem Boundary.refl (s : List UInt8) : Boundary s s := ⟨[], rfl⟩

theorem Boundary.trans {s t u : List UInt8} (h : Boundary s t) (h' : Boundary t u) :
    Boundary s u := by
  obtain ⟨cs, rfl⟩ := h
  obtain ⟨ds, rfl⟩ := h'
  exact ⟨cs ++ ds, by rw [encode_append, List.append_assoc]⟩

theorem Boundary.char (c : Char) (s : List UInt8) : Boundary (encodeChar c ++ s) s :=
  ⟨[c], by simp [encode]⟩

theorem Boundary.ascii {b : UInt8} (h : b < 0x80) (s : List UInt8) : Boundary (b :: s) s := by
  have hb : b.toNat < 0x80 := UInt8.lt_iff_toNat_lt.mp h
  have hchar := Boundary.char (Char.ofNat b.toNat) s
  rwa [encodeChar_decoded_one hb] at hchar

theorem Boundary.cons {b : UInt8} {s rest : List UInt8} (hb : b < 0x80) (h : Boundary s rest) :
    Boundary (b :: s) rest := (Boundary.ascii hb s).trans h

theorem Boundary.dropWhile {p : UInt8 → Bool} (hp : ∀ b, p b = true → b < 0x80) (s : List UInt8) :
    Boundary s (s.dropWhile p) := by
  induction s with
  | nil => exact .refl _
  | cons b s ih =>
    rw [List.dropWhile_cons]
    split
    · next hb => exact .cons (hp b hb) ih
    · exact .refl _

end WindowGateway.Text.Utf8

namespace WindowGateway.Text

theorem ofBytes_eq_ok_iff {bs : List UInt8} {s : String} : ofBytes bs = .ok s ↔ bs = bytes s := by
  constructor
  · intro h
    rw [ofBytes] at h
    cases hcs : Utf8.decode bs with
    | error fault =>
      rw [hcs] at h
      cases h
    | ok cs =>
      rw [hcs] at h
      obtain rfl : String.ofList cs = s := Except.ok.inj h
      rw [bytes, String.toList_ofList, Utf8.decode_eq_ok_iff.mp hcs]
  · rintro rfl
    exact ofBytes_bytes s

end WindowGateway.Text
