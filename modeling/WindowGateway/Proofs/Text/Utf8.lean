import WindowGateway.Text.Utf8

/-! UTF-8 reads back: decoding the bytes of characters yields the characters. -/

namespace WindowGateway.Text

namespace Utf8

theorem encode_cons (c : Char) (cs : List Char) : encode (c :: cs) = encodeChar c ++ encode cs := by
  simp [encode]

theorem encode_append (cs ds : List Char) : encode (cs ++ ds) = encode cs ++ encode ds := by
  simp [encode]

/-! ### One character -/

/-- The numbers of characters leave out the surrogates. -/
theorem toNat_cases (c : Char) : c.toNat < 0xD800 ∨ 0xDFFF < c.toNat ∧ c.toNat < 0x110000 := by
  have h := c.valid
  unfold UInt32.isValidChar Nat.isValidChar at h
  exact h

theorem continuation?_of_toNat {b : UInt8} {n : Nat} (hb : b.toNat = 0x80 + n) (h : n < 0x40) :
    continuation? b = some n := by
  unfold continuation?
  rw [hb, if_pos (by omega), Nat.add_sub_cancel_left]

theorem second?_of_toNat (lead : UInt8) {b : UInt8} {n : Nat} (hb : b.toNat = 0x80 + n)
    (h : n < 0x40) (he : lead.toNat = 0xE0 → 0x20 ≤ n) (hd : lead.toNat = 0xED → n < 0x20)
    (hf : lead.toNat = 0xF0 → 0x10 ≤ n) (h4 : lead.toNat = 0xF4 → n < 0x10) :
    second? lead b = some n := by
  unfold second?
  rw [hb, if_neg (by omega), continuation?_of_toNat hb h]

theorem decodeChar_one {lead : UInt8} (rest : List UInt8) (h : lead.toNat < 0x80) :
    decodeChar lead rest = .ok (Char.ofNat lead.toNat, rest) := by
  unfold decodeChar
  simp only [if_pos h]

theorem decodeChar_two {lead b₁ : UInt8} {c₁ : Nat} (rest : List UInt8)
    (h : 0xC2 ≤ lead.toNat ∧ lead.toNat < 0xE0) (h₁ : second? lead b₁ = some c₁) :
    decodeChar lead (b₁ :: rest) = .ok (Char.ofNat ((lead.toNat - 0xC0) * 0x40 + c₁), rest) := by
  unfold decodeChar
  simp only [if_neg (show ¬lead.toNat < 0x80 by omega),
    if_neg (show ¬(lead.toNat < 0xC2 ∨ 0xF5 ≤ lead.toNat) by omega), h₁, if_pos h.2]

theorem decodeChar_three {lead b₁ b₂ : UInt8} {c₁ c₂ : Nat} (rest : List UInt8)
    (h : 0xE0 ≤ lead.toNat ∧ lead.toNat < 0xF0) (h₁ : second? lead b₁ = some c₁)
    (h₂ : continuation? b₂ = some c₂) :
    decodeChar lead (b₁ :: b₂ :: rest) =
      .ok (Char.ofNat (((lead.toNat - 0xE0) * 0x40 + c₁) * 0x40 + c₂), rest) := by
  unfold decodeChar
  simp only [if_neg (show ¬lead.toNat < 0x80 by omega),
    if_neg (show ¬(lead.toNat < 0xC2 ∨ 0xF5 ≤ lead.toNat) by omega), h₁, h₂,
    if_neg (show ¬lead.toNat < 0xE0 by omega), if_pos h.2]

theorem decodeChar_four {lead b₁ b₂ b₃ : UInt8} {c₁ c₂ c₃ : Nat} (rest : List UInt8)
    (h : 0xF0 ≤ lead.toNat ∧ lead.toNat < 0xF5) (h₁ : second? lead b₁ = some c₁)
    (h₂ : continuation? b₂ = some c₂) (h₃ : continuation? b₃ = some c₃) :
    decodeChar lead (b₁ :: b₂ :: b₃ :: rest) =
      .ok (Char.ofNat ((((lead.toNat - 0xF0) * 0x40 + c₁) * 0x40 + c₂) * 0x40 + c₃), rest) := by
  unfold decodeChar
  simp only [if_neg (show ¬lead.toNat < 0x80 by omega),
    if_neg (show ¬(lead.toNat < 0xC2 ∨ 0xF5 ≤ lead.toNat) by omega), h₁, h₂, h₃,
    if_neg (show ¬lead.toNat < 0xE0 by omega), if_neg (show ¬lead.toNat < 0xF0 by omega)]

theorem toNat_ofNat {n : Nat} (h : n < 0x100) : (UInt8.ofNat n).toNat = n := by
  rw [UInt8.toNat_ofNat']
  exact Nat.mod_eq_of_lt h

theorem encodeChar_one {c : Char} (h : c.toNat < 0x80) : encodeChar c = [UInt8.ofNat c.toNat] := by
  unfold encodeChar
  simp only [if_pos h]

theorem encodeChar_two {c : Char} (h : 0x80 ≤ c.toNat ∧ c.toNat < 0x800) :
    encodeChar c =
      [UInt8.ofNat (0xC0 + c.toNat / 0x40), UInt8.ofNat (0x80 + c.toNat % 0x40)] := by
  unfold encodeChar
  simp only [if_neg (show ¬c.toNat < 0x80 by omega), if_pos h.2]

theorem encodeChar_three {c : Char} (h : 0x800 ≤ c.toNat ∧ c.toNat < 0x10000) :
    encodeChar c =
      [UInt8.ofNat (0xE0 + c.toNat / 0x1000), UInt8.ofNat (0x80 + c.toNat / 0x40 % 0x40),
        UInt8.ofNat (0x80 + c.toNat % 0x40)] := by
  unfold encodeChar
  simp only [if_neg (show ¬c.toNat < 0x80 by omega), if_neg (show ¬c.toNat < 0x800 by omega),
    if_pos h.2]

theorem encodeChar_four {c : Char} (h : 0x10000 ≤ c.toNat) :
    encodeChar c =
      [UInt8.ofNat (0xF0 + c.toNat / 0x40000), UInt8.ofNat (0x80 + c.toNat / 0x1000 % 0x40),
        UInt8.ofNat (0x80 + c.toNat / 0x40 % 0x40), UInt8.ofNat (0x80 + c.toNat % 0x40)] := by
  unfold encodeChar
  simp only [if_neg (show ¬c.toNat < 0x80 by omega), if_neg (show ¬c.toNat < 0x800 by omega),
    if_neg (show ¬c.toNat < 0x10000 by omega)]

theorem ofNat_eq (c : Char) {n : Nat} (h : n = c.toNat) : Char.ofNat n = c := by
  rw [h, Char.ofNat_toNat]

/-- Whatever follows the bytes of a character, they are read as that character. -/
theorem decodeChar_encodeChar (c : Char) (rest : List UInt8) :
    ∃ lead tail, encodeChar c ++ rest = lead :: tail ∧ decodeChar lead tail = .ok (c, rest) := by
  have hc := toNat_cases c
  by_cases h1 : c.toNat < 0x80
  · rw [encodeChar_one h1]
    refine ⟨_, _, rfl, ?_⟩
    have hl : (UInt8.ofNat c.toNat).toNat = c.toNat := toNat_ofNat (by omega)
    rw [decodeChar_one _ (by omega), ofNat_eq c hl]
    rfl
  have h₀ : (UInt8.ofNat (0x80 + c.toNat % 0x40)).toNat = 0x80 + c.toNat % 0x40 :=
    toNat_ofNat (by omega)
  by_cases h2 : c.toNat < 0x800
  · rw [encodeChar_two (by omega)]
    simp only [List.cons_append, List.nil_append]
    refine ⟨_, _, rfl, ?_⟩
    have hl : (UInt8.ofNat (0xC0 + c.toNat / 0x40)).toNat = 0xC0 + c.toNat / 0x40 :=
      toNat_ofNat (by omega)
    have hs := second?_of_toNat (UInt8.ofNat (0xC0 + c.toNat / 0x40)) h₀ (by omega)
      (by omega) (by omega) (by omega) (by omega)
    rw [decodeChar_two _ (by omega) hs, ofNat_eq c (by omega)]
  have h₁ : (UInt8.ofNat (0x80 + c.toNat / 0x40 % 0x40)).toNat = 0x80 + c.toNat / 0x40 % 0x40 :=
    toNat_ofNat (by omega)
  by_cases h3 : c.toNat < 0x10000
  · rw [encodeChar_three (by omega)]
    simp only [List.cons_append, List.nil_append]
    refine ⟨_, _, rfl, ?_⟩
    have hl : (UInt8.ofNat (0xE0 + c.toNat / 0x1000)).toNat = 0xE0 + c.toNat / 0x1000 :=
      toNat_ofNat (by omega)
    have hs := second?_of_toNat (UInt8.ofNat (0xE0 + c.toNat / 0x1000)) h₁ (by omega)
      (by omega) (by omega) (by omega) (by omega)
    rw [decodeChar_three _ (by omega) hs (continuation?_of_toNat h₀ (by omega)),
      ofNat_eq c (by omega)]
  · rw [encodeChar_four (by omega)]
    simp only [List.cons_append, List.nil_append]
    refine ⟨_, _, rfl, ?_⟩
    have hl : (UInt8.ofNat (0xF0 + c.toNat / 0x40000)).toNat = 0xF0 + c.toNat / 0x40000 :=
      toNat_ofNat (by omega)
    have h₂ : (UInt8.ofNat (0x80 + c.toNat / 0x1000 % 0x40)).toNat =
        0x80 + c.toNat / 0x1000 % 0x40 := toNat_ofNat (by omega)
    have hs := second?_of_toNat (UInt8.ofNat (0xF0 + c.toNat / 0x40000)) h₂ (by omega)
      (by omega) (by omega) (by omega) (by omega)
    rw [decodeChar_four _ (by omega) hs (continuation?_of_toNat h₁ (by omega))
      (continuation?_of_toNat h₀ (by omega)), ofNat_eq c (by omega)]

theorem le_of_mem_encodeChar {c : Char} (h : 0x80 ≤ c.toNat) {b : UInt8} (hb : b ∈ encodeChar c) :
    0x80 ≤ b.toNat := by
  have hc := toNat_cases c
  have hof : ∀ n, 0x80 ≤ n → n < 0x100 → 0x80 ≤ (UInt8.ofNat n).toNat := fun n hl hn => by
    rw [toNat_ofNat hn]; exact hl
  by_cases h2 : c.toNat < 0x800
  · rw [encodeChar_two ⟨h, h2⟩] at hb
    simp only [List.mem_cons, List.not_mem_nil, or_false] at hb
    rcases hb with rfl | rfl <;> exact hof _ (by omega) (by omega)
  by_cases h3 : c.toNat < 0x10000
  · rw [encodeChar_three (by omega)] at hb
    simp only [List.mem_cons, List.not_mem_nil, or_false] at hb
    rcases hb with rfl | rfl | rfl <;> exact hof _ (by omega) (by omega)
  · rw [encodeChar_four (by omega)] at hb
    simp only [List.mem_cons, List.not_mem_nil, or_false] at hb
    rcases hb with rfl | rfl | rfl | rfl <;> exact hof _ (by omega) (by omega)

/-! ### Texts -/

theorem encode_ascii {cs : List Char} (h : ∀ c ∈ cs, c.toNat < 0x80) :
    encode cs = cs.map fun c => UInt8.ofNat c.toNat := by
  induction cs with
  | nil => rfl
  | cons c cs ih =>
    have htail := ih fun d hd => h d (List.mem_cons_of_mem _ hd)
    rw [encode_cons, encodeChar_one (h c List.mem_cons_self), htail]
    rfl

theorem encodeChar_ne_nil (c : Char) : encodeChar c ≠ [] := by
  unfold encodeChar
  simp only
  split
  · simp
  · split
    · simp
    · split <;> simp

theorem decodeFrom_encode {total fuel : Nat} {done cs : List Char}
    (h : (encode cs).length ≤ fuel) :
    decodeFrom total fuel done (encode cs) = .ok (done.reverse ++ cs) := by
  induction cs generalizing fuel done with
  | nil => cases fuel <;> simp [encode, decodeFrom]
  | cons c cs ih =>
    have hpos := List.length_pos_iff.mpr (encodeChar_ne_nil c)
    rw [encode_cons] at h ⊢
    rw [List.length_append] at h
    obtain ⟨fuel, rfl⟩ : ∃ k, fuel = k + 1 := ⟨fuel - 1, by omega⟩
    obtain ⟨lead, tail, he, hd⟩ := decodeChar_encodeChar c (encode cs)
    rw [he, decodeFrom, hd]
    simp only
    rw [ih (by omega)]
    simp

theorem decode_encode (cs : List Char) : decode (encode cs) = .ok cs :=
  decodeFrom_encode (Nat.le_refl _)

/-! ### Without a check -/

section Unchecked

variable {b : UInt8} {codes : List Nat} {n : Nat}

theorem addByte_one (codes : List Nat) (h : b.toNat < 0x80) :
    addByte codes b = b.toNat :: codes := by
  unfold addByte
  simp only [if_pos h]

theorem addByte_continuation (code : Nat) (hb : b.toNat = 0x80 + n) (h : n < 0x40) :
    addByte (code :: codes) b = (code * 0x40 + n) :: codes := by
  unfold addByte
  simp only [hb, if_neg (show ¬0x80 + n < 0x80 by omega), if_pos (show 0x80 + n < 0xC0 by omega),
    Nat.add_sub_cancel_left]

theorem addByte_two (codes : List Nat) (hb : b.toNat = 0xC0 + n) (h : n < 0x20) :
    addByte codes b = n :: codes := by
  unfold addByte
  simp only [hb, if_neg (show ¬0xC0 + n < 0x80 by omega), if_neg (show ¬0xC0 + n < 0xC0 by omega),
    if_pos (show 0xC0 + n < 0xE0 by omega), Nat.add_sub_cancel_left]

theorem addByte_three (codes : List Nat) (hb : b.toNat = 0xE0 + n) (h : n < 0x10) :
    addByte codes b = n :: codes := by
  unfold addByte
  simp only [hb, if_neg (show ¬0xE0 + n < 0x80 by omega), if_neg (show ¬0xE0 + n < 0xC0 by omega),
    if_neg (show ¬0xE0 + n < 0xE0 by omega), if_pos (show 0xE0 + n < 0xF0 by omega),
    Nat.add_sub_cancel_left]

theorem addByte_four (codes : List Nat) (hb : b.toNat = 0xF0 + n) :
    addByte codes b = n :: codes := by
  unfold addByte
  simp only [hb, if_neg (show ¬0xF0 + n < 0x80 by omega), if_neg (show ¬0xF0 + n < 0xC0 by omega),
    if_neg (show ¬0xF0 + n < 0xE0 by omega), if_neg (show ¬0xF0 + n < 0xF0 by omega),
    Nat.add_sub_cancel_left]

end Unchecked

/-- The bytes of a character add its number. -/
theorem foldl_addByte_encodeChar (c : Char) (codes : List Nat) :
    (encodeChar c).foldl addByte codes = c.toNat :: codes := by
  have hc := toNat_cases c
  by_cases h1 : c.toNat < 0x80
  · have hb : (UInt8.ofNat c.toNat).toNat = c.toNat := toNat_ofNat (by omega)
    rw [encodeChar_one h1, List.foldl_cons, List.foldl_nil, addByte_one codes (by omega), hb]
  have h₀ : (UInt8.ofNat (0x80 + c.toNat % 0x40)).toNat = 0x80 + c.toNat % 0x40 :=
    toNat_ofNat (by omega)
  by_cases h2 : c.toNat < 0x800
  · have hl : (UInt8.ofNat (0xC0 + c.toNat / 0x40)).toNat = 0xC0 + c.toNat / 0x40 :=
      toNat_ofNat (by omega)
    rw [encodeChar_two (by omega), List.foldl_cons, List.foldl_cons, List.foldl_nil,
      addByte_two codes hl (by omega), addByte_continuation _ h₀ (by omega)]
    congr 1
    omega
  have h₁ : (UInt8.ofNat (0x80 + c.toNat / 0x40 % 0x40)).toNat = 0x80 + c.toNat / 0x40 % 0x40 :=
    toNat_ofNat (by omega)
  by_cases h3 : c.toNat < 0x10000
  · have hl : (UInt8.ofNat (0xE0 + c.toNat / 0x1000)).toNat = 0xE0 + c.toNat / 0x1000 :=
      toNat_ofNat (by omega)
    rw [encodeChar_three (by omega), List.foldl_cons, List.foldl_cons, List.foldl_cons,
      List.foldl_nil, addByte_three codes hl (by omega), addByte_continuation _ h₁ (by omega),
      addByte_continuation _ h₀ (by omega)]
    congr 1
    omega
  · have hl : (UInt8.ofNat (0xF0 + c.toNat / 0x40000)).toNat = 0xF0 + c.toNat / 0x40000 :=
      toNat_ofNat (by omega)
    have h₂ : (UInt8.ofNat (0x80 + c.toNat / 0x1000 % 0x40)).toNat =
        0x80 + c.toNat / 0x1000 % 0x40 := toNat_ofNat (by omega)
    rw [encodeChar_four (by omega), List.foldl_cons, List.foldl_cons, List.foldl_cons,
      List.foldl_cons, List.foldl_nil, addByte_four codes hl, addByte_continuation _ h₂ (by omega),
      addByte_continuation _ h₁ (by omega), addByte_continuation _ h₀ (by omega)]
    congr 1
    omega

theorem foldl_addByte_encode (cs : List Char) (codes : List Nat) :
    (encode cs).foldl addByte codes = (cs.map Char.toNat).reverse ++ codes := by
  induction cs generalizing codes with
  | nil => rfl
  | cons c cs ih =>
    rw [encode_cons, List.foldl_append, foldl_addByte_encodeChar, ih, List.map_cons,
      List.reverse_cons, List.append_assoc, List.singleton_append]

/-- On UTF-8 no check is missed. -/
theorem decodeUnchecked_encode (cs : List Char) : decodeUnchecked (encode cs) = cs := by
  rw [decodeUnchecked, foldl_addByte_encode, List.append_nil, List.reverse_reverse, List.map_map]
  simp only [Function.comp_def, Char.ofNat_toNat, List.map_id']

end Utf8

theorem ofBytes_encode (cs : List Char) : ofBytes (Utf8.encode cs) = .ok (String.ofList cs) := by
  simp [ofBytes, Utf8.decode_encode, Except.map]

theorem ofBytesUnchecked_encode (cs : List Char) :
    ofBytesUnchecked (Utf8.encode cs) = String.ofList cs := by
  rw [ofBytesUnchecked, Utf8.decodeUnchecked_encode]

theorem ofBytes_bytes (s : String) : ofBytes (bytes s) = .ok s := by
  rw [bytes, ofBytes_encode, String.ofList_toList]

theorem bytes_eq_nil_iff {s : String} : bytes s = [] ↔ s = "" := by
  constructor
  · intro h
    rw [bytes, Utf8.encode, List.flatMap_eq_nil_iff] at h
    have hnone : s.toList = [] :=
      List.eq_nil_iff_forall_not_mem.mpr fun c hc => Utf8.encodeChar_ne_nil c (h c hc)
    rwa [String.toList_eq_nil_iff] at hnone
  · rintro rfl
    rfl

end WindowGateway.Text
