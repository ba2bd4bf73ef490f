import Mathlib.Data.List.Forall2
import WindowGateway.Text.Digits

/-! Digits of a radix. A run of digits goes on up to the first character that is none, and the rest
is left as it is. The digits that a number is written with are read as that number; a zero stands in
front of them only if it is the number. -/

namespace WindowGateway.Text

/-- The characters are the digits with the given values. -/
def DigitValues (radix : Nat) : List Char → List Nat → Prop :=
  List.Forall₂ fun c d => digitIn? radix c = some d

/-- The text does not go on with a digit. -/
def NoDigit (radix : Nat) (cs : List Char) : Prop := ∀ c ∈ cs.head?, digitIn? radix c = none

/-! ### Runs -/

section Runs

variable {radix : Nat} {c : Char} {cs rest : List Char} {ds : List Nat}

theorem noDigit_nil (radix : Nat) : NoDigit radix [] := fun _ h => nomatch h

theorem noDigit_cons (h : digitIn? radix c = none) (cs : List Char) : NoDigit radix (c :: cs) := by
  intro d hd
  obtain rfl := Option.some.inj hd
  exact h

theorem DigitValues.not_mem (h : DigitValues radix cs ds) (hc : digitIn? radix c = none) :
    c ∉ cs := by
  induction h with
  | nil => exact List.not_mem_nil
  | cons hd _ ih =>
    rintro (_ | ⟨_, hmem⟩)
    · rw [hc] at hd
      cases hd
    · exact ih hmem

theorem digitRun_append (h : DigitValues radix cs ds) (hr : NoDigit radix rest) :
    digitRun radix (cs ++ rest) = (ds, rest) := by
  induction h with
  | nil =>
    cases rest with
    | nil => rfl
    | cons c rest =>
      have hc : digitIn? radix c = none := hr c rfl
      rw [List.nil_append, digitRun, hc]
  | cons hd _ ih => rw [List.cons_append, digitRun, hd, ih]

theorem exists_digits_of_digitRun (h : digitRun radix cs = (ds, rest)) :
    ∃ front, cs = front ++ rest ∧ DigitValues radix front ds ∧ NoDigit radix rest := by
  induction cs generalizing ds with
  | nil =>
    obtain ⟨rfl, rfl⟩ := Prod.mk.inj h
    exact ⟨[], rfl, .nil, noDigit_nil radix⟩
  | cons c cs ih =>
    rw [digitRun] at h
    split at h
    · next hc =>
      obtain ⟨rfl, rfl⟩ := Prod.mk.inj h
      exact ⟨[], rfl, .nil, noDigit_cons hc cs⟩
    · next d hd =>
      obtain ⟨rfl, rfl⟩ := Prod.mk.inj h
      obtain ⟨front, hcs, hfront, hrest⟩ := ih rfl
      exact ⟨c :: front, by rw [List.cons_append, ← hcs], .cons hd hfront, hrest⟩

theorem suffix_of_digitRun (h : digitRun radix cs = (ds, rest)) : rest <:+ cs := by
  obtain ⟨front, rfl, _⟩ := exists_digits_of_digitRun h
  exact List.suffix_append front rest

end Runs

/-! ### Numbers -/

theorem ofDigits_concat (radix : Nat) (ds : List Nat) (d : Nat) :
    ofDigits radix (ds ++ [d]) = radix * ofDigits radix ds + d := by
  rw [ofDigits, ofDigits, List.foldl_append, List.foldl_cons, List.foldl_nil]

theorem digitIn?_digitChar {radix d : Nat} (hr : radix ≤ 16) (hd : d < radix) :
    digitIn? radix d.digitChar = some d := by
  have hall : ∀ r : Fin 17, ∀ d : Fin 16, d.val < r.val →
      digitIn? r d.val.digitChar = some d.val := by decide
  exact hall ⟨radix, by omega⟩ ⟨d, by omega⟩ hd

/-- What the digits of a number are worth. -/
theorem exists_digitValues_toDigits {radix : Nat} (hlow : 1 < radix) (hhigh : radix ≤ 16)
    (n : Nat) :
    ∃ ds, DigitValues radix (Nat.toDigits radix n) ds ∧ ofDigits radix ds = n ∧
      (ds.head? = some 0 → n = 0) := by
  induction n using Nat.strongRecOn with
  | ind n ih =>
    by_cases hn : n < radix
    · rw [Nat.toDigits_of_lt_base hn]
      refine ⟨[n], .cons (digitIn?_digitChar hhigh hn) .nil, ?_, fun h => Option.some.inj h⟩
      rw [← List.nil_append [n], ofDigits_concat]
      exact Nat.zero_add n
    · have hle : radix ≤ n := Nat.le_of_not_lt hn
      obtain ⟨ds, hds, hvalue, hzero⟩ :=
        ih (n / radix) (Nat.div_lt_self (by omega) hlow)
      have hlast := digitIn?_digitChar hhigh (Nat.mod_lt n (by omega))
      have hne : ds ≠ [] := by
        rintro rfl
        exact Nat.toDigits_ne_nil (List.forall₂_nil_right_iff.mp hds)
      rw [Nat.toDigits_of_base_le hlow hle]
      refine ⟨ds ++ [n % radix], List.rel_append hds (.cons hlast .nil), ?_, fun h => ?_⟩
      · rw [ofDigits_concat, hvalue, Nat.div_add_mod]
      · rw [List.head?_append_of_ne_nil _ hne] at h
        have hpos : 0 < n / radix := Nat.div_pos hle (by omega)
        exact absurd (hzero h) (by omega)

/-- The digits of a number make a run of their own before a text that does not go on with one. -/
theorem digitRun_toDigits {radix : Nat} (hlow : 1 < radix) (hhigh : radix ≤ 16) (n : Nat)
    {rest : List Char} (hr : NoDigit radix rest) :
    ∃ ds, digitRun radix (Nat.toDigits radix n ++ rest) = (ds, rest) ∧ ofDigits radix ds = n ∧
      ds.length = (Nat.toDigits radix n).length ∧ (ds.head? = some 0 → n = 0) := by
  obtain ⟨ds, hds, hvalue, hzero⟩ := exists_digitValues_toDigits hlow hhigh n
  exact ⟨ds, digitRun_append hds hr, hvalue, hds.length_eq.symm, hzero⟩

theorem exists_digitChar_of_mem_toDigits {radix : Nat} (hlow : 1 < radix) {n : Nat} {c : Char}
    (h : c ∈ Nat.toDigits radix n) : ∃ d < radix, c = d.digitChar := by
  induction n using Nat.strongRecOn with
  | ind n ih =>
    by_cases hn : n < radix
    · rw [Nat.toDigits_of_lt_base hn, List.mem_singleton] at h
      exact ⟨n, hn, h⟩
    · have hle : radix ≤ n := Nat.le_of_not_lt hn
      rw [Nat.toDigits_of_base_le hlow hle, List.mem_append, List.mem_singleton] at h
      rcases h with h | h
      · exact ih (n / radix) (Nat.div_lt_self (by omega) hlow) h
      · exact ⟨n % radix, Nat.mod_lt n (by omega), h⟩

end WindowGateway.Text
