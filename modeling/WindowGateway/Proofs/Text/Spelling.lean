import Mathlib.Data.List.Induction
import WindowGateway.Proofs.Text.Digits
import WindowGateway.Proofs.Text.Integer
import WindowGateway.Text.Blank

/-! How integers are spelled: by the digits that they are written with, after a sign, with zeros in
front. Every numeral is a spelling of the integer that it denotes, and denotes no other. -/

namespace WindowGateway.Text

/-- The digits of a number, with zeros in front of them. -/
def padded (zeros n : Nat) : List Char := List.replicate zeros '0' ++ Nat.toDigits 10 n

inductive Spelling : List Char → Int → Prop
  | bare (zeros n : Nat) : Spelling (padded zeros n) n
  | plus (zeros n : Nat) : Spelling ('+' :: padded zeros n) n
  | minus (zeros n : Nat) : Spelling ('-' :: padded zeros n) (-n)

/-! ### Digits -/

section Digits

variable {c : Char} {cs : List Char} {n : Nat}

theorem sub_lt_of_digit (hc : '0' ≤ c ∧ c ≤ '9') : c.toNat - '0'.toNat < 10 := by
  have hzero : '0'.toNat = 48 := rfl
  have hhigh : c.toNat ≤ 57 := hc.2
  omega

theorem digitChar_of_digit (hc : '0' ≤ c ∧ c ≤ '9') : (c.toNat - '0'.toNat).digitChar = c := by
  have hzero : '0'.toNat = 48 := rfl
  have hlow : 48 ≤ c.toNat := hc.1
  apply Char.toNat_inj.mp
  rw [Nat.toNat_digitChar_of_lt_ten (sub_lt_of_digit hc)]
  omega

theorem digit_of_digitIn? {d : Nat} (h : digitIn? 10 c = some d) :
    ('0' ≤ c ∧ c ≤ '9') ∧ c.toNat - '0'.toNat = d := by
  by_cases hc : '0' ≤ c ∧ c ≤ '9'
  · rw [digitIn?, if_pos hc, if_pos (sub_lt_of_digit hc)] at h
    exact ⟨hc, Option.some.inj h⟩
  · -- The letters are worth ten and more.
    rw [digitIn?, if_neg hc] at h
    obtain ⟨hvalue, _⟩ := Option.ite_none_right_eq_some.mp h
    split_ifs at hvalue <;> omega

theorem DigitValues.decimal {ds : List Nat} (h : DigitValues 10 cs ds) :
    (∀ c ∈ cs, '0' ≤ c ∧ c ≤ '9') ∧ cs.map (fun c => c.toNat - '0'.toNat) = ds := by
  induction h with
  | nil => exact ⟨List.forall_mem_nil _, rfl⟩
  | cons hd _ ih =>
    obtain ⟨hdigit, hvalue⟩ := digit_of_digitIn? hd
    exact ⟨List.forall_mem_cons.mpr ⟨hdigit, ih.1⟩, by rw [List.map_cons, hvalue, ih.2]⟩

theorem digits_of_concat (h : Digits (cs ++ [c]) n) :
    ∃ d < 10, c = d.digitChar ∧ (cs = [] ∧ n = d ∨ ∃ m, Digits cs m ∧ n = 10 * m + d) := by
  have hc : '0' ≤ c ∧ c ≤ '9' := h.digit c (by simp)
  have hvalue := h.value
  rw [List.map_append, List.map_singleton, ofDigits_concat] at hvalue
  refine ⟨c.toNat - '0'.toNat, sub_lt_of_digit hc, (digitChar_of_digit hc).symm, ?_⟩
  by_cases hcs : cs = []
  · left
    subst hcs
    exact ⟨rfl, hvalue.symm.trans (Nat.zero_add _)⟩
  · right
    exact ⟨_, ⟨hcs, fun d hd => h.digit d (List.mem_append_left _ hd), rfl⟩, hvalue.symm⟩

theorem digits_toDigits (n : Nat) : Digits (Nat.toDigits 10 n) n := by
  obtain ⟨ds, hds, hvalue, _⟩ := @exists_digitValues_toDigits 10 (by decide) (by decide) n
  obtain ⟨hdigits, hvalues⟩ := hds.decimal
  exact ⟨Nat.toDigits_ne_nil, hdigits, by rw [hvalues, hvalue]⟩

theorem Digits.not_isBlank (h : Digits cs n) : ∀ c ∈ cs, isBlank c = false := by
  intro c hc
  have hall : ∀ d : Fin 10, isBlank d.val.digitChar = false := by decide
  have hdigit := h.digit c hc
  have hd : c.toNat - '0'.toNat < 10 := sub_lt_of_digit hdigit
  rw [← digitChar_of_digit hdigit]
  exact hall ⟨_, hd⟩

theorem Digits.zero_cons (h : Digits cs n) : Digits ('0' :: cs) n := by
  refine ⟨List.cons_ne_nil _ _, fun c hc => ?_, h.value⟩
  rcases List.mem_cons.mp hc with rfl | hc
  · decide
  · exact h.digit c hc

theorem digits_padded (zeros n : Nat) : Digits (padded zeros n) n := by
  induction zeros with
  | zero => exact digits_toDigits n
  | succ zeros ih => exact ih.zero_cons

/-- A digit after a padded number makes a padded number. -/
theorem padded_concat (zeros n : Nat) {d : Nat} (hd : d < 10) :
    ∃ more, padded zeros n ++ [d.digitChar] = padded more (10 * n + d) := by
  rw [← Nat.toDigits_of_lt_base hd]
  cases n with
  | zero =>
    refine ⟨zeros + 1, ?_⟩
    rw [padded, padded, Nat.toDigits_zero, Nat.mul_zero, Nat.zero_add, List.replicate_succ']
  | succ n =>
    refine ⟨zeros, ?_⟩
    rw [padded, padded, List.append_assoc,
      Nat.toDigits_append_toDigits (by decide) (Nat.succ_pos n) hd]

theorem digits_iff_padded : Digits cs n ↔ ∃ zeros, cs = padded zeros n := by
  constructor
  · intro h
    induction cs using List.reverseRecOn generalizing n with
    | nil => exact absurd h not_digits_nil
    | append_singleton cs c ih =>
      obtain ⟨d, hd, rfl, ⟨rfl, rfl⟩ | ⟨m, hm, rfl⟩⟩ := digits_of_concat h
      · exact ⟨0, (Nat.toDigits_of_lt_base hd).symm⟩
      · obtain ⟨zeros, rfl⟩ := ih hm
        exact padded_concat zeros m hd
  · rintro ⟨zeros, rfl⟩
    exact digits_padded zeros n

end Digits

/-! ### Numerals -/

section Numerals

variable {cs : List Char} {i j : Int}

theorem numeral_iff_spelling : Numeral cs i ↔ Spelling cs i := by
  constructor
  · intro h
    cases h with
    | bare hd =>
      obtain ⟨zeros, rfl⟩ := digits_iff_padded.mp hd
      exact .bare zeros _
    | plus hd =>
      obtain ⟨zeros, rfl⟩ := digits_iff_padded.mp hd
      exact .plus zeros _
    | minus hd =>
      obtain ⟨zeros, rfl⟩ := digits_iff_padded.mp hd
      exact .minus zeros _
  · intro h
    cases h with
    | bare zeros n => exact .bare (digits_padded zeros n)
    | plus zeros n => exact .plus (digits_padded zeros n)
    | minus zeros n => exact .minus (digits_padded zeros n)

theorem Digits.unique {n m : Nat} (hn : Digits cs n) (hm : Digits cs m) : n = m :=
  hn.value.symm.trans hm.value

theorem Numeral.unique (hi : Numeral cs i) (hj : Numeral cs j) : i = j := by
  have hplus : ¬('0' ≤ '+' ∧ '+' ≤ '9') := by decide
  have hminus : ¬('0' ≤ '-' ∧ '-' ≤ '9') := by decide
  cases hi with
  | bare hn =>
    cases hj with
    | bare hm => rw [hn.unique hm]
    | plus hm => exact absurd hn (not_digits_of_head hplus)
    | minus hm => exact absurd hn (not_digits_of_head hminus)
  | plus hn =>
    cases hj with
    | bare hm => exact absurd hm (not_digits_of_head hplus)
    | plus hm => rw [hn.unique hm]
  | minus hn =>
    cases hj with
    | bare hm => exact absurd hm (not_digits_of_head hminus)
    | minus hm => rw [hn.unique hm]

/-- No numeral holds a blank. -/
theorem Numeral.not_isBlank (h : Numeral cs i) : ∀ c ∈ cs, isBlank c = false := by
  cases h with
  | bare hd => exact hd.not_isBlank
  | plus hd => exact List.forall_mem_cons.mpr ⟨by decide, hd.not_isBlank⟩
  | minus hd => exact List.forall_mem_cons.mpr ⟨by decide, hd.not_isBlank⟩

end Numerals

end WindowGateway.Text
