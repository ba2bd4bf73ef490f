import WindowGateway.Json.ReadString
import WindowGateway.Json.Render
import WindowGateway.Proofs.Text.Utf8

/-! String literals read back: the reader undoes the escapes of the writer and leaves every other
byte as it is. -/

namespace WindowGateway.Json

open Text.Utf8 (encode encodeChar encode_cons encode_append)

/-! ### Escapes -/

theorem hexValue?_digitChar {n : Nat} (h : n < 16) :
    hexValue? (UInt8.ofNat (Nat.digitChar n).toNat) = some n := by
  have hall : ∀ k : Fin 16, hexValue? (UInt8.ofNat (Nat.digitChar k).toNat) = some k.val := by
    decide
  exact hall ⟨n, h⟩

theorem readUnicode_of_codeUnit {s rest : List UInt8} {c : Char}
    (h : readCodeUnit s = .ok (c.toNat, rest)) (hc : c.toNat < 0xD800) :
    readUnicode s = .ok (encodeChar c, rest) := by
  have hlow : isLowSurrogate c.toNat = false := by
    simp only [isLowSurrogate, Bool.and_eq_false_iff, decide_eq_false_iff_not]; omega
  have hhigh : isHighSurrogate c.toNat = false := by
    simp only [isHighSurrogate, Bool.and_eq_false_iff, decide_eq_false_iff_not]; omega
  simp [readUnicode, h, hlow, hhigh, bind, Except.bind, pure, Except.pure, Char.ofNat_toNat]

theorem readCodeUnit_control {n : Nat} (h : n < 0x20) (rest : List UInt8) :
    readCodeUnit (0x30 :: 0x30 :: UInt8.ofNat (Nat.digitChar (n / 16)).toNat ::
      UInt8.ofNat (Nat.digitChar (n % 16)).toNat :: rest) = .ok (n, rest) := by
  have hzero : hexValue? 0x30 = some 0 := by decide
  simp only [readCodeUnit, hzero, hexValue?_digitChar (show n / 16 < 16 by omega),
    hexValue?_digitChar (show n % 16 < 16 by omega)]
  congr 2
  omega

theorem digitChar_lt {n : Nat} (h : n < 16) : (Nat.digitChar n).toNat < 0x80 := by
  have hall : ∀ k : Fin 16, (Nat.digitChar k).toNat < 0x80 := by decide
  exact hall ⟨n, h⟩

/-- A character in a literal stands for itself, or an escape stands for it. -/
theorem escapeChar_cases (c : Char) :
    (escapeChar c = [c] ∧ c ≠ '"' ∧ c ≠ '\\' ∧ 0x20 ≤ c.toNat) ∨
      ∃ e, encode (escapeChar c) = 0x5C :: e ∧
        ∀ rest, readEscape (e ++ rest) = .ok (encodeChar c, rest) := by
  unfold escapeChar
  by_cases hq : c = '"' ∨ c = '\\'
  · rw [if_pos hq]
    refine .inr ?_
    rcases hq with rfl | rfl
    · exact ⟨[0x22], by decide, fun rest => rfl⟩
    · exact ⟨[0x5C], by decide, fun rest => rfl⟩
  rw [if_neg hq]
  by_cases h8 : c = '\x08'
  · subst h8; exact .inr ⟨[0x62], by decide, fun rest => rfl⟩
  by_cases hc : c = '\x0c'
  · subst hc; exact .inr ⟨[0x66], by decide, fun rest => rfl⟩
  by_cases hn : c = '\n'
  · subst hn; exact .inr ⟨[0x6E], by decide, fun rest => rfl⟩
  by_cases hr : c = '\r'
  · subst hr; exact .inr ⟨[0x72], by decide, fun rest => rfl⟩
  by_cases ht : c = '\t'
  · subst ht; exact .inr ⟨[0x74], by decide, fun rest => rfl⟩
  rw [if_neg h8, if_neg hc, if_neg hn, if_neg hr, if_neg ht]
  by_cases hctl : c.toNat < 0x20
  · rw [if_pos hctl]
    refine .inr ⟨[0x75, 0x30, 0x30, UInt8.ofNat (Nat.digitChar (c.toNat / 16)).toNat,
      UInt8.ofNat (Nat.digitChar (c.toNat % 16)).toNat], ?_, fun rest => ?_⟩
    · have h1 := digitChar_lt (show c.toNat / 16 < 16 by omega)
      have h2 := digitChar_lt (show c.toNat % 16 < 16 by omega)
      rw [Text.Utf8.encode_ascii]
      · rfl
      · intro d hd
        simp only [List.mem_cons, List.not_mem_nil, or_false] at hd
        rcases hd with rfl | rfl | rfl | rfl | rfl | rfl <;> first | decide | assumption
    · exact readUnicode_of_codeUnit (readCodeUnit_control hctl rest) (by omega)
  · rw [if_neg hctl]
    exact .inl ⟨rfl, fun h => hq (.inl h), fun h => hq (.inr h), Nat.le_of_not_lt hctl⟩

/-! ### Literals -/

theorem Source.literalText_encode (source : Source) (cs : List Char) :
    source.literalText (encode cs) = .ok (String.ofList cs) := by
  cases source with
  | bytes => exact Text.ofBytes_encode cs
  | text => exact congrArg Except.ok (Text.ofBytesUnchecked_encode cs)

/-- A byte that a literal can hold as it is. -/
def IsPlain (b : UInt8) : Prop := b ≠ 0x22 ∧ b ≠ 0x5C ∧ ¬b < 0x20

theorem isPlain_of_mem_encodeChar {c : Char} (hq : c ≠ '"') (hb : c ≠ '\\') (hs : 0x20 ≤ c.toNat)
    {b : UInt8} (h : b ∈ encodeChar c) : IsPlain b := by
  have hne : b.toNat ≠ 0x22 ∧ b.toNat ≠ 0x5C ∧ 0x20 ≤ b.toNat := by
    by_cases hc : c.toNat < 0x80
    · rw [Text.Utf8.encodeChar_one hc, List.mem_singleton] at h
      subst h
      rw [Text.Utf8.toNat_ofNat (by omega)]
      refine ⟨fun e => hq ?_, fun e => hb ?_, hs⟩
      · rw [← Char.ofNat_toNat c, e]
      · rw [← Char.ofNat_toNat c, e]
    · have := Text.Utf8.le_of_mem_encodeChar (Nat.le_of_not_lt hc) h
      omega
  refine ⟨?_, ?_, ?_⟩
  · rintro rfl; exact hne.1 rfl
  · rintro rfl; exact hne.2.1 rfl
  · rw [UInt8.lt_iff_toNat_lt]; exact Nat.not_lt.mpr hne.2.2

section Literals

variable {source : Source}

theorem readLiteralFrom_plain {bs : List UInt8} (h : ∀ b ∈ bs, IsPlain b) (fuel : Nat)
    (done rest : List UInt8) :
    readLiteralFrom source (fuel + bs.length) done (bs ++ rest) =
      readLiteralFrom source fuel (bs.reverse ++ done) rest := by
  induction bs generalizing done with
  | nil => rfl
  | cons b bs ih =>
    obtain ⟨hq, hb, hs⟩ := h b List.mem_cons_self
    rw [List.length_cons, ← Nat.add_assoc, List.cons_append, readLiteralFrom, if_neg hq, if_neg hb,
      if_neg hs, ih fun d hd => h d (List.mem_cons_of_mem _ hd)]
    simp

theorem readLiteralFrom_escape {e bytes rest : List UInt8} (h : readEscape e = .ok (bytes, rest))
    (fuel : Nat) (done : List UInt8) :
    readLiteralFrom source (fuel + 1) done (0x5C :: e) =
      readLiteralFrom source fuel (bytes.reverse ++ done) rest := by
  rw [readLiteralFrom, if_neg (by decide), if_pos rfl, h]

/-- A character of a literal is read in no more steps than it has bytes. -/
theorem readLiteralFrom_escapeChar (c : Char) (fuel : Nat)
    (hfuel : (encode (escapeChar c)).length ≤ fuel) (done rest : List UInt8) :
    ∃ left, fuel ≤ left + (encode (escapeChar c)).length ∧
      readLiteralFrom source fuel done (encode (escapeChar c) ++ rest) =
        readLiteralFrom source left ((encodeChar c).reverse ++ done) rest := by
  rcases escapeChar_cases c with ⟨he, hq, hb, hs⟩ | ⟨e, he, hread⟩
  · have hbytes : encode (escapeChar c) = encodeChar c := by rw [he]; simp [encode]
    rw [hbytes] at hfuel ⊢
    refine ⟨fuel - (encodeChar c).length, by omega, ?_⟩
    have hplain := @readLiteralFrom_plain source _ (fun b => isPlain_of_mem_encodeChar hq hb hs)
      (fuel - (encodeChar c).length) done rest
    rwa [Nat.sub_add_cancel hfuel] at hplain
  · rw [he, List.length_cons] at hfuel ⊢
    obtain ⟨left, rfl⟩ : ∃ k, fuel = k + 1 := ⟨fuel - 1, by omega⟩
    exact ⟨left, by omega, readLiteralFrom_escape (hread rest) left done⟩

theorem readLiteralFrom_close (fuel : Nat) (cs : List Char) (rest : List UInt8) :
    readLiteralFrom source (fuel + 1) (encode cs).reverse (0x22 :: rest) =
      .ok (String.ofList cs, rest) := by
  rw [readLiteralFrom, if_pos rfl, List.reverse_reverse,
    source.literalText_encode]

theorem readLiteralFrom_escaped (cs done : List Char) {fuel : Nat}
    (hfuel : (encode (cs.flatMap escapeChar)).length < fuel) (rest : List UInt8) :
    readLiteralFrom source fuel (encode done).reverse
        (encode (cs.flatMap escapeChar) ++ 0x22 :: rest) =
      .ok (String.ofList (done ++ cs), rest) := by
  -- The reader keeps the bytes so far in reverse, and they are always those of whole characters.
  induction cs generalizing fuel done with
  | nil =>
    obtain ⟨fuel, rfl⟩ : ∃ k, fuel = k + 1 := ⟨fuel - 1, by simp [encode] at hfuel; omega⟩
    simpa [encode] using readLiteralFrom_close fuel done rest
  | cons c cs ih =>
    rw [List.flatMap_cons, encode_append] at hfuel ⊢
    rw [List.length_append] at hfuel
    obtain ⟨left, hleft, hc⟩ := readLiteralFrom_escapeChar c fuel (by omega)
      (encode done).reverse (encode (cs.flatMap escapeChar) ++ 0x22 :: rest)
    have hdone : (encodeChar c).reverse ++ (encode done).reverse =
        (encode (done ++ [c])).reverse := by
      simp [encode]
    rw [List.append_assoc, hc, hdone, ih _ (by omega), List.append_assoc]
    rfl

/-- A literal is read back as its text, whatever follows it. -/
theorem readLiteral_literal (source : Source) (text : String) :
    ∃ body, encode (literal text) = 0x22 :: body ∧
      ∀ rest, readLiteral source (body ++ rest) = .ok (text, rest) := by
  refine ⟨encode (text.toList.flatMap escapeChar) ++ [0x22], ?_, fun rest => ?_⟩
  · simp only [literal, List.cons_append, encode_cons, encode_append]
    rfl
  · rw [readLiteral, List.append_assoc]
    have hfuel : (encode (text.toList.flatMap escapeChar)).length <
        (encode (text.toList.flatMap escapeChar) ++ ([0x22] ++ rest)).length := by simp
    simpa [encode] using readLiteralFrom_escaped text.toList [] hfuel rest

end Literals

end WindowGateway.Json
