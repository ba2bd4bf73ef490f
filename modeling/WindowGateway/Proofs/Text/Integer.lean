import WindowGateway.Proofs.Except
import WindowGateway.Text.Digits
import WindowGateway.Text.Integer

/-! Numerals: an optional sign and one or more ASCII digits, leading zeros among them. A reader of
integers takes just the numerals of the integers within its range, and none of them wraps. -/

namespace WindowGateway.Text

/-- One or more decimal digits, and the number that they denote. -/
structure Digits (cs : List Char) (n : Nat) : Prop where
  ne_nil : cs ≠ []
  digit : ∀ c ∈ cs, '0' ≤ c ∧ c ≤ '9'
  value : ofDigits 10 (cs.map fun c => c.toNat - '0'.toNat) = n

inductive Numeral : List Char → Int → Prop
  | bare {cs : List Char} {n : Nat} (digits : Digits cs n) : Numeral cs n
  | plus {cs : List Char} {n : Nat} (digits : Digits cs n) : Numeral ('+' :: cs) n
  | minus {cs : List Char} {n : Nat} (digits : Digits cs n) : Numeral ('-' :: cs) (-n)

/-! ### Digits -/

theorem le_foldl_digits (ds : List Nat) (value : Nat) :
    value ≤ ds.foldl (fun n d => 10 * n + d) value := by
  induction ds generalizing value with
  | nil => exact Nat.le_refl _
  | cons d ds ih =>
    have htail := ih (10 * value + d)
    rw [List.foldl_cons]
    omega

theorem readDigits_eq_ok_iff {limit value n : Nat} {beyond : IntegerFault} {cs : List Char}
    (hv : value ≤ limit) :
    readDigits limit beyond value cs = .ok n ↔
      (∀ c ∈ cs, '0' ≤ c ∧ c ≤ '9') ∧
        (cs.map fun c => c.toNat - '0'.toNat).foldl (fun n d => 10 * n + d) value = n ∧
        n ≤ limit := by
  induction cs generalizing value with
  | nil =>
    constructor
    · intro h
      obtain rfl : value = n := Except.ok.inj h
      exact ⟨by simp, rfl, hv⟩
    · rintro ⟨_, rfl, _⟩
      rfl
  | cons c cs ih =>
    rw [readDigits, List.map_cons, List.foldl_cons, List.forall_mem_cons]
    by_cases hc : '0' ≤ c ∧ c ≤ '9'
    · have hdigit : digit? c = some (c.toNat - '0'.toNat) := if_pos hc
      simp only [hdigit]
      by_cases hle : 10 * value + (c.toNat - '0'.toNat) ≤ limit
      · rw [if_pos hle, ih hle, and_iff_right hc]
      · rw [if_neg hle]
        constructor
        · intro h
          cases h
        · rintro ⟨_, rfl, hn⟩
          exact absurd (Nat.le_trans (le_foldl_digits _ _) hn) hle
    · have hdigit : digit? c = none := if_neg hc
      simp [hdigit, hc]

theorem readDigits_zero_eq_ok_iff {limit n : Nat} {beyond : IntegerFault} {c : Char}
    {cs : List Char} :
    readDigits limit beyond 0 (c :: cs) = .ok n ↔ Digits (c :: cs) n ∧ n ≤ limit := by
  rw [readDigits_eq_ok_iff (Nat.zero_le limit)]
  constructor
  · rintro ⟨hd, hv, hn⟩
    exact ⟨⟨List.cons_ne_nil c cs, hd, hv⟩, hn⟩
  · rintro ⟨⟨_, hd, hv⟩, hn⟩
    exact ⟨hd, hv, hn⟩

theorem not_digits_nil {n : Nat} : ¬Digits [] n := fun h => h.ne_nil rfl

theorem not_digits_of_head {c : Char} (h : ¬('0' ≤ c ∧ c ≤ '9')) {cs : List Char} {n : Nat} :
    ¬Digits (c :: cs) n := fun hd => h (hd.digit c List.mem_cons_self)

/-! ### Numerals -/

/-- A natural number is read from digits, with or without a plus sign. -/
theorem readNatural_eq_ok_iff {limit n : Nat} {s : String} :
    readNatural limit s = .ok n ↔
      (Digits s.toList n ∨ ∃ cs, s.toList = '+' :: cs ∧ Digits cs n) ∧ n ≤ limit := by
  rw [readNatural]
  split
  · next hs =>
    rw [hs]
    simp [not_digits_nil]
  · next c cs hs =>
    have hplus : ¬Digits ('+' :: c :: cs) n := not_digits_of_head (by decide)
    rw [hs, readDigits_zero_eq_ok_iff]
    simp [hplus]
  · next cs hs hplus =>
    -- What is left of a plus sign is a plus sign alone, which no digit follows.
    have hnone : ¬∃ ds, s.toList = '+' :: ds ∧ Digits ds n := by
      rintro ⟨ds, hds, hd⟩
      cases ds with
      | nil => exact not_digits_nil hd
      | cons d ds => exact hplus d ds hds
    cases hcs : s.toList with
    | nil => exact absurd hcs hs
    | cons c cs =>
      rw [hcs] at hnone
      rw [readDigits_zero_eq_ok_iff, or_iff_left hnone]

theorem readInt64_minus {s : String} {c : Char} {cs : List Char} (hs : s.toList = '-' :: c :: cs) :
    readInt64 s =
      (readDigits 0x8000000000000000 .tooSmall 0 (c :: cs)).map fun n : Nat => -(n : Int) := by
  rw [readInt64, hs]
  split
  · next heq =>
    obtain ⟨rfl, rfl⟩ := List.cons.inj (List.cons.inj heq).2
    cases readDigits 0x8000000000000000 .tooSmall 0 (c :: cs) <;> rfl
  · next hne => exact absurd rfl (hne c cs)

theorem readInt64_natural {s : String} (hs : ∀ c cs, s.toList ≠ '-' :: c :: cs) :
    readInt64 s = (readNatural 0x7fffffffffffffff s).map fun n : Nat => (n : Int) := by
  rw [readInt64]
  split
  · next heq => exact absurd heq (hs _ _)
  · cases readNatural 0x7fffffffffffffff s <;> rfl

theorem numeral_minus_iff {cs : List Char} {i : Int} :
    Numeral ('-' :: cs) i ↔ ∃ n : Nat, Digits cs n ∧ -(n : Int) = i := by
  constructor
  · intro h
    cases h with
    | bare hd => exact absurd hd (not_digits_of_head (by decide))
    | minus hd => exact ⟨_, hd, rfl⟩
  · rintro ⟨n, hd, rfl⟩
    exact .minus hd

theorem numeral_natural_iff {cs : List Char} (hm : ∀ d ds, cs ≠ '-' :: d :: ds) {i : Int} :
    Numeral cs i ↔
      ∃ n : Nat, (Digits cs n ∨ ∃ ds, cs = '+' :: ds ∧ Digits ds n) ∧ (n : Int) = i := by
  constructor
  · intro h
    cases h with
    | bare hd => exact ⟨_, .inl hd, rfl⟩
    | plus hd => exact ⟨_, .inr ⟨_, rfl, hd⟩, rfl⟩
    | @minus ds n hd =>
      cases ds with
      | nil => exact absurd hd not_digits_nil
      | cons d ds => exact absurd rfl (hm d ds)
  · rintro ⟨n, hd | ⟨ds, rfl, hd⟩, rfl⟩
    · exact .bare hd
    · exact .plus hd

/-- Reading an integer of 64 bits succeeds just on the numerals of such integers. -/
theorem readInt64_eq_ok_iff {s : String} {i : Int} :
    readInt64 s = .ok i ↔
      Numeral s.toList i ∧ -0x8000000000000000 ≤ i ∧ i < 0x8000000000000000 := by
  by_cases hs : ∃ c cs, s.toList = '-' :: c :: cs
  · obtain ⟨c, cs, hs⟩ := hs
    rw [readInt64_minus hs, map_eq_ok_iff, hs, numeral_minus_iff]
    constructor
    · rintro ⟨n, hn, rfl⟩
      obtain ⟨hd, hle⟩ := readDigits_zero_eq_ok_iff.mp hn
      exact ⟨⟨n, hd, rfl⟩, by omega, by omega⟩
    · rintro ⟨⟨n, hd, rfl⟩, hlow, _⟩
      exact ⟨n, readDigits_zero_eq_ok_iff.mpr ⟨hd, by omega⟩, rfl⟩
  · have hm : ∀ c cs, s.toList ≠ '-' :: c :: cs := fun c cs h => hs ⟨c, cs, h⟩
    rw [readInt64_natural hm, map_eq_ok_iff, numeral_natural_iff hm]
    constructor
    · rintro ⟨n, hn, rfl⟩
      obtain ⟨hd, hle⟩ := readNatural_eq_ok_iff.mp hn
      exact ⟨⟨n, hd, rfl⟩, by omega, by omega⟩
    · rintro ⟨⟨n, hd, rfl⟩, _, hhigh⟩
      exact ⟨n, readNatural_eq_ok_iff.mpr ⟨hd, by omega⟩, rfl⟩

end WindowGateway.Text
