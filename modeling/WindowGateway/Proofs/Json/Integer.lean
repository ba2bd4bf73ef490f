import WindowGateway.Json.ReadNumber
import WindowGateway.Json.Render
import WindowGateway.Proofs.Text.Utf8

/-! Integers read back: the decimal digits of an integer of 64 bits are read as that integer, and
not as a floating-point number. -/

namespace WindowGateway.Json

open Text.Utf8 (encode encode_append)

/-! ### Digits -/

theorem encode_digitChar {n : Nat} (h : n < 10) :
    encode [Nat.digitChar n] = [UInt8.ofNat (0x30 + n)] := by
  have hall : ∀ k : Fin 10, encode [Nat.digitChar k] = [UInt8.ofNat (0x30 + k)] := by decide
  exact hall ⟨n, h⟩

theorem digits_of_lt {n : Nat} (h : n < 10) :
    encode (naturalChars n) = [UInt8.ofNat (0x30 + n)] := by
  rw [naturalChars, Nat.toDigits_of_lt_base h, encode_digitChar h]

theorem digits_of_le {n : Nat} (h : 10 ≤ n) :
    encode (naturalChars n) =
      encode (naturalChars (n / 10)) ++ [UInt8.ofNat (0x30 + n % 10)] := by
  rw [naturalChars, Nat.toDigits_of_base_le (by decide) h, encode_append,
    encode_digitChar (Nat.mod_lt n (by decide))]
  rfl

theorem isDigit_ofNat {n : Nat} (h : n < 10) : isDigit (UInt8.ofNat (0x30 + n)) = true := by
  have hall : ∀ k : Fin 10, isDigit (UInt8.ofNat (0x30 + k)) = true := by decide
  exact hall ⟨n, h⟩

theorem digitValue_ofNat {n : Nat} (h : n < 10) : digitValue (UInt8.ofNat (0x30 + n)) = n := by
  rw [digitValue, Text.Utf8.toNat_ofNat (by omega), Nat.add_sub_cancel_left]

theorem isDigit_of_mem_digits {n : Nat} : ∀ b ∈ encode (naturalChars n), isDigit b = true := by
  induction n using Nat.strongRecOn with
  | ind n ih =>
    intro b hb
    by_cases h : n < 10
    · rw [digits_of_lt h, List.mem_singleton] at hb
      rw [hb, isDigit_ofNat h]
    · rw [digits_of_le (by omega), List.mem_append, List.mem_singleton] at hb
      rcases hb with hb | rfl
      · exact ih (n / 10) (by omega) b hb
      · exact isDigit_ofNat (Nat.mod_lt n (by decide))

/-- Only the digits of zero start with a zero. -/
theorem digits_head (n : Nat) :
    ∃ b ds, encode (naturalChars n) = b :: ds ∧ (b = 0x30 → n = 0 ∧ ds = []) := by
  induction n using Nat.strongRecOn with
  | ind n ih =>
    by_cases h : n < 10
    · refine ⟨_, [], digits_of_lt h, fun hb => ⟨?_, rfl⟩⟩
      have hv := digitValue_ofNat h
      rw [hb] at hv
      exact hv.symm
    · obtain ⟨b, ds, he, hz⟩ := ih (n / 10) (by omega)
      refine ⟨b, ds ++ [UInt8.ofNat (0x30 + n % 10)], ?_, fun hb => ?_⟩
      · rw [digits_of_le (by omega), he, List.cons_append]
      · have := (hz hb).1
        omega

theorem absorb_append {value w : Nat} {ds : List UInt8} (h : absorb value ds = (w, []))
    (es : List UInt8) : absorb value (ds ++ es) = absorb w es := by
  induction ds generalizing value with
  | nil =>
    obtain rfl : value = w := by simpa [absorb] using h
    rfl
  | cons d ds ih =>
    rw [absorb] at h
    by_cases hd : 10 * value + digitValue d < 0x10000000000000000
    · rw [if_pos hd] at h
      rw [List.cons_append, absorb, if_pos hd, ih h]
    · rw [if_neg hd] at h
      simp at h

theorem absorb_digits {n : Nat} (h : n < 0x10000000000000000) :
    absorb 0 (encode (naturalChars n)) = (n, []) := by
  induction n using Nat.strongRecOn with
  | ind n ih =>
    by_cases hlow : n < 10
    · have hfits : 10 * 0 + n < 0x10000000000000000 := by omega
      rw [digits_of_lt hlow, absorb, digitValue_ofNat hlow, if_pos hfits, absorb]
      simp
    · have hvalue : 10 * (n / 10) + n % 10 = n := Nat.div_add_mod n 10
      rw [digits_of_le (by omega), absorb_append (ih (n / 10) (by omega) (by omega)), absorb,
        digitValue_ofNat (Nat.mod_lt n (by decide)), hvalue, if_pos h, absorb]

/-! ### Numbers -/

/-- What can follow an integer without being taken for a part of it. -/
structure EndsNumber (rest : List UInt8) : Prop where
  noDigit : (rest.head?.map isDigit).getD false = false
  noScale : hasScale rest = false

theorem EndsNumber.takeWhile_digits {rest : List UInt8} (h : EndsNumber rest) (n : Nat) :
    (encode (naturalChars n) ++ rest).takeWhile isDigit = encode (naturalChars n) := by
  rw [List.takeWhile_append_of_pos isDigit_of_mem_digits]
  cases rest with
  | nil => simp
  | cons b rest =>
    have hb : isDigit b = false := h.noDigit
    simp [hb]

theorem EndsNumber.dropWhile_digits {rest : List UInt8} (h : EndsNumber rest) (n : Nat) :
    (encode (naturalChars n) ++ rest).dropWhile isDigit = rest := by
  rw [List.dropWhile_append_of_pos isDigit_of_mem_digits]
  cases rest with
  | nil => rfl
  | cons b rest =>
    have hb : isDigit b = false := h.noDigit
    simp [hb]

theorem readAfterInteger_eq {negative : Bool} {value : Nat} {number : Number} {rest : List UInt8}
    (hz : negative = true → value ≠ 0)
    (hn : Number.ofInt? (if negative then -(value : Int) else value) = some number)
    (hr : EndsNumber rest) : readAfterInteger negative value rest = .ok (number, rest) := by
  have hzero : ¬(negative && value == 0) = true := by
    intro h
    rw [Bool.and_eq_true, beq_iff_eq] at h
    exact hz h.1 h.2
  have hscale : ¬hasScale rest = true := by simp [hr.noScale]
  rw [readAfterInteger, if_neg hscale, if_neg hzero, hn]

theorem readNumber_digits {negative : Bool} {value : Nat} {number : Number} {rest : List UInt8}
    (hv : value < 0x10000000000000000) (hz : negative = true → value ≠ 0)
    (hn : Number.ofInt? (if negative then -(value : Int) else value) = some number)
    (hr : EndsNumber rest) :
    readNumber negative (encode (naturalChars value) ++ rest) = .ok (number, rest) := by
  have hafter := readAfterInteger_eq hz hn hr
  have htake := hr.takeWhile_digits value
  have hdrop := hr.dropWhile_digits value
  have habsorb := absorb_digits hv
  have hdigit : ∀ b ∈ encode (naturalChars value), isDigit b = true := isDigit_of_mem_digits
  obtain ⟨b, ds, he, hzero⟩ := digits_head value
  rw [he] at htake hdrop habsorb hdigit ⊢
  rw [List.cons_append] at htake hdrop ⊢
  by_cases hb : b = 0x30
  · obtain ⟨rfl, rfl⟩ := hzero hb
    have hno : ¬(rest.head?.map isDigit).getD false = true := by simp [hr.noDigit]
    subst hb
    rw [List.nil_append, readNumber, if_neg hno, hafter]
  · rw [readNumber]
    · rw [if_pos (hdigit b List.mem_cons_self)]
      simp only [htake, hdrop, habsorb, hafter]
    · exact fun h => hb h

end WindowGateway.Json
