import Mathlib.Data.List.Chain
import Mathlib.Data.List.Nodup
import WindowGateway.Proofs.Text.Boundary
import WindowGateway.Text.Uppercase

/-! Upper case is stable. No character that upper case is written with has an upper case other than
itself, so that text in upper case stays as it is, although a character may have become several. The
tables are compared run by run: no run of lower-case characters meets what a run becomes. -/

namespace WindowGateway.Text

/-! ### Runs -/

/-- The first and the last character of a run, the step, and the upper case of the first. -/
abbrev UpperRun := Nat × Nat × Nat × Nat

namespace UpperRun

def first (q : UpperRun) : Nat := q.1

def last (q : UpperRun) : Nat := q.2.1

def step (q : UpperRun) : Nat := q.2.2.1

def upper (q : UpperRun) : Nat := q.2.2.2

/-- The upper case of the last character, if the run goes up to it. -/
def highest (q : UpperRun) : Nat := q.upper + (q.last - q.first)

/-- The run says what the upper case of the character is. -/
def Holds (q : UpperRun) (n : Nat) : Prop :=
  q.first ≤ n ∧ n ≤ q.last ∧ (n - q.first) % q.step = 0

/-- The upper case that a run gives to a character. -/
def upperOf (q : UpperRun) (n : Nat) : Nat := q.upper + (n - q.first)

/-- Whether the run reaches into the code points from `low` to `high`. -/
def reaches (low high : Nat) (r : UpperRun) : Bool := Nat.ble low r.last && Nat.ble r.first high

/-- Whether what a run becomes lies between the steps of the other run. -/
def between (q r : UpperRun) : Bool :=
  (q.first == q.last || q.step % r.step == 0) && q.upper % r.step != r.first % r.step

/-- Whether the run goes past the code point. -/
def passes (q : UpperRun) (n : Nat) : Bool :=
  Nat.blt n q.first || Nat.blt q.last n || !Nat.beq ((n - q.first) % q.step) 0

/-- What the run becomes are characters, and no other run holds one of them. -/
def settled (q : UpperRun) : Bool :=
  (Nat.blt q.highest 0xD800 || Nat.blt 0xDFFF q.upper && Nat.blt q.highest 0x110000) &&
    (upperRuns.filter (reaches q.upper q.highest)).all q.between &&
    upperExpansions.all fun x => Nat.blt x.1 q.upper || Nat.blt q.highest x.1

section Settled

variable {q r : UpperRun} {n : Nat}

theorem mod_eq_of_dvd_sub {m step : Nat} (hle : m ≤ n) (h : (n - m) % step = 0) :
    n % step = m % step := by
  obtain ⟨k, hk⟩ := Nat.dvd_of_mod_eq_zero h
  obtain rfl : n = m + step * k := by omega
  exact Nat.add_mul_mod_self_left m step k

theorem Holds.not_passes (hn : q.Holds n) : ¬q.passes n = true := by
  obtain ⟨hfirst, hlast, hstep⟩ := hn
  simp only [passes, hstep, Nat.beq_refl, Bool.not_true, Bool.or_false, Bool.or_eq_true, Nat.blt_eq]
  omega

theorem Holds.reaches {low high : Nat} (hn : q.Holds n) (hlow : low ≤ n) (hhigh : n ≤ high) :
    UpperRun.reaches low high q = true := by
  obtain ⟨hfirst, hlast, -⟩ := hn
  rw [UpperRun.reaches, Bool.and_eq_true, Nat.ble_eq, Nat.ble_eq]
  omega

theorem le_upperOf (q : UpperRun) (n : Nat) : q.upper ≤ q.upperOf n := Nat.le_add_right _ _

theorem Holds.upperOf_le (hn : q.Holds n) : q.upperOf n ≤ q.highest := by
  obtain ⟨-, hlast, -⟩ := hn
  unfold upperOf highest
  omega

/-- Both runs go in whole steps, so that what lies between two steps once always does. -/
theorem Holds.not_between (hn : q.Holds n) (hr : r.Holds (q.upperOf n)) : ¬q.between r = true := by
  intro hbetween
  obtain ⟨hfirst, hlast, hstep⟩ := hn
  simp only [between, Bool.and_eq_true, Bool.or_eq_true, beq_iff_eq, bne_iff_ne] at hbetween
  obtain ⟨haligned, hne⟩ := hbetween
  have hwhole : (q.upperOf n - q.upper) % r.step = 0 := by
    rw [upperOf, Nat.add_sub_cancel_left]
    rcases haligned with hone | hdvd
    · rw [show n - q.first = 0 by omega, Nat.zero_mod]
    · exact Nat.mod_eq_zero_of_dvd
        (Nat.dvd_trans (Nat.dvd_of_mod_eq_zero hdvd) (Nat.dvd_of_mod_eq_zero hstep))
  have hupper := mod_eq_of_dvd_sub (q.le_upperOf n) hwhole
  exact hne (hupper.symm.trans (mod_eq_of_dvd_sub hr.1 hr.2.2))

theorem not_holds_of_settled (h : q.settled = true) (hn : q.Holds n) (hr : r ∈ upperRuns) :
    ¬r.Holds (q.upperOf n) := by
  intro hheld
  simp only [settled, Bool.and_eq_true] at h
  have hbetween := List.all_eq_true.mp h.1.2 r (List.mem_filter.mpr
    ⟨hr, hheld.reaches (q.le_upperOf n) hn.upperOf_le⟩)
  exact hn.not_between hheld hbetween

theorem ne_of_settled (h : q.settled = true) (hn : q.Holds n) {x : Nat × List Nat}
    (hx : x ∈ upperExpansions) : q.upperOf n ≠ x.1 := by
  simp only [settled, Bool.and_eq_true] at h
  have hapart := List.all_eq_true.mp h.2 x hx
  have hlow := q.le_upperOf n
  have hhigh := hn.upperOf_le
  rw [Bool.or_eq_true, Nat.blt_eq, Nat.blt_eq] at hapart
  omega

theorem toNat_of_settled (h : q.settled = true) (hn : q.Holds n) :
    (Char.ofNat (q.upperOf n)).toNat = q.upperOf n := by
  simp only [settled, Bool.and_eq_true, Bool.or_eq_true, Nat.blt_eq] at h
  have hlow := q.le_upperOf n
  have hhigh := hn.upperOf_le
  exact Utf8.toNat_char (by omega)

end Settled

end UpperRun

/-! ### Tables -/

open UpperRun

/-- The code points with which the tables write upper case, a single one as a run. -/
def upperTargets : List UpperRun :=
  upperRuns ++ (upperExpansions.flatMap Prod.snd).eraseDups.map fun m => (m, m, 1, m)

theorem settled_upperTargets : upperTargets.all settled = true := by
  decide +kernel

/-- How the tables write a code point in upper case. -/
inductive WrittenUpper (n : Nat) : List Nat → Prop
  | expansion {codes : List Nat} (mem : (n, codes) ∈ upperExpansions) : WrittenUpper n codes
  | run {q : UpperRun} (mem : q ∈ upperRuns) (holds : q.Holds n) : WrittenUpper n [q.upperOf n]
  | self (expansions : ∀ x ∈ upperExpansions, n ≠ x.1) (runs : ∀ r ∈ upperRuns, ¬Holds r n) :
      WrittenUpper n [n]

theorem writtenUpper_upperCodes (n : Nat) : WrittenUpper n (upperCodes n) := by
  unfold upperCodes
  split
  · next codes hlookup =>
    obtain ⟨front, back, hsplit, -⟩ := List.lookup_eq_some_iff.mp hlookup
    exact .expansion (hsplit ▸ List.mem_append_right _ List.mem_cons_self)
  · next hlookup =>
    have hexpansions := List.lookup_eq_none_iff.mp hlookup
    split
    · next first last step upper hfind =>
      have hin := List.find?_some hfind
      simp only [Bool.and_eq_true, decide_eq_true_eq, beq_iff_eq] at hin
      exact .run (List.mem_of_find?_eq_some hfind) ⟨hin.1.1, hin.1.2, hin.2⟩
    · next hfind =>
      refine .self (fun x hx => bne_iff_ne.mp (hexpansions x hx)) fun r hr hheld => ?_
      refine List.find?_eq_none.mp hfind r hr ?_
      simp only [Bool.and_eq_true, decide_eq_true_eq, beq_iff_eq]
      exact ⟨⟨hheld.1, hheld.2.1⟩, hheld.2.2⟩

/-! ### One upper case -/

/-- One of the runs ends before the other begins. -/
def Apart (q r : UpperRun) : Prop := q.last < r.first ∨ r.last < q.first

instance : Std.Symm Apart where
  symm _ _ := Or.symm

def Before (q r : UpperRun) : Prop := q.last < r.first ∧ r.first ≤ r.last

instance (q r : UpperRun) : Decidable (Before q r) :=
  inferInstanceAs (Decidable (q.last < r.first ∧ r.first ≤ r.last))

instance : Trans Before Before Before where
  trans h h' := ⟨Nat.lt_of_lt_of_le h.1 (Nat.le_trans h.2 (Nat.le_of_lt h'.1)), h'.2⟩

theorem ascending_upperRuns : upperRuns.IsChain Before := by
  decide +kernel

theorem eq_of_holds {q r : UpperRun} {n : Nat} (hq : q ∈ upperRuns) (hr : r ∈ upperRuns)
    (hn : q.Holds n) (hm : r.Holds n) : q = r := by
  by_contra hne
  have happart : upperRuns.Pairwise Apart := ascending_upperRuns.pairwise.imp fun h => .inl h.1
  have hside := happart.forall hq hr hne
  obtain ⟨hfirst, hlast, -⟩ := hn
  obtain ⟨hfirst', hlast', -⟩ := hm
  unfold Apart at hside
  omega

theorem nodup_upperExpansions : (upperExpansions.map Prod.fst).Nodup := by
  decide +kernel

theorem passes_upperExpansions :
    (upperExpansions.all fun x => upperRuns.all fun r => passes r x.1) = true := by
  decide +kernel

theorem not_holds_of_mem {x : Nat × List Nat} {q : UpperRun} (hx : x ∈ upperExpansions)
    (hq : q ∈ upperRuns) : ¬q.Holds x.1 := by
  have hpasses := List.all_eq_true.mp (List.all_eq_true.mp passes_upperExpansions x hx) q hq
  exact fun hn => Holds.not_passes hn hpasses

/-- The tables do not contradict each other. -/
theorem WrittenUpper.unique {n : Nat} {codes codes' : List Nat} (h : WrittenUpper n codes)
    (h' : WrittenUpper n codes') : codes = codes' := by
  cases h with
  | expansion mem =>
    cases h' with
    | expansion mem' =>
      exact (Prod.ext_iff.mp (List.inj_on_of_nodup_map nodup_upperExpansions mem mem' rfl)).2
    | run mem' holds' => exact absurd holds' (not_holds_of_mem mem mem')
    | self expansions' => exact absurd rfl (expansions' _ mem)
  | run mem holds =>
    cases h' with
    | expansion mem' => exact absurd holds (not_holds_of_mem mem' mem)
    | run mem' holds' => rw [eq_of_holds mem mem' holds holds']
    | self _ runs' => exact absurd holds (runs' _ mem)
  | self expansions runs =>
    cases h' with
    | expansion mem' => exact absurd rfl (expansions _ mem')
    | run mem' holds' => exact absurd holds' (runs _ mem')
    | self => rfl

theorem upperCodes_of_written {n : Nat} {codes : List Nat} (h : WrittenUpper n codes) :
    upperCodes n = codes := (writtenUpper_upperCodes n).unique h

/-! ### Stability -/

/-- The code point is that of a character, and of one that is its own upper case. -/
structure Stable (m : Nat) : Prop where
  upper : upperCodes m = [m]
  isChar : (Char.ofNat m).toNat = m

theorem stable_upperOf {q : UpperRun} (hq : q ∈ upperTargets) {n : Nat} (hn : q.Holds n) :
    Stable (q.upperOf n) := by
  have hsettled := List.all_eq_true.mp settled_upperTargets q hq
  have hself : WrittenUpper (q.upperOf n) [q.upperOf n] :=
    .self (fun _ => ne_of_settled hsettled hn) fun _ => not_holds_of_settled hsettled hn
  exact ⟨upperCodes_of_written hself, toNat_of_settled hsettled hn⟩

theorem stable_of_mem_upperExpansions {x : Nat × List Nat} (hx : x ∈ upperExpansions) {m : Nat}
    (hm : m ∈ x.2) : Stable m := by
  have hmem : m ∈ (upperExpansions.flatMap Prod.snd).eraseDups :=
    List.mem_eraseDups.mpr (List.mem_flatMap.mpr ⟨x, hx, hm⟩)
  have hholds : Holds (m, m, 1, m) m := ⟨Nat.le_refl m, Nat.le_refl m, Nat.mod_one _⟩
  have hstable := stable_upperOf (List.mem_append_right _ (List.mem_map_of_mem hmem)) hholds
  have hupper : upperOf (m, m, 1, m) m = m := by
    show m + (m - m) = m
    omega
  rwa [hupper] at hstable

/-- What a character becomes is stable, itself among it if no table says otherwise. -/
theorem stable_of_mem_upperCodes {c : Char} {m : Nat} (hm : m ∈ upperCodes c.toNat) :
    Stable m := by
  have hwritten := writtenUpper_upperCodes c.toNat
  generalize hcodes : upperCodes c.toNat = codes at hm hwritten
  cases hwritten with
  | expansion mem => exact stable_of_mem_upperExpansions mem hm
  | run mem holds =>
    obtain rfl := List.mem_singleton.mp hm
    exact stable_upperOf (List.mem_append_left _ mem) holds
  | self =>
    obtain rfl := List.mem_singleton.mp hm
    exact ⟨hcodes, by rw [Char.ofNat_toNat]⟩

/-! ### Text -/

/-- The upper case of a character, as characters. -/
def upperChars (c : Char) : List Char := (upperCodes c.toNat).map Char.ofNat

theorem uppercase_eq (s : String) : uppercase s = String.ofList (s.toList.flatMap upperChars) := rfl

theorem flatMap_upperChars (c : Char) : (upperChars c).flatMap upperChars = upperChars c := by
  have hstable : ∀ m ∈ upperCodes c.toNat, upperChars (Char.ofNat m) = [Char.ofNat m] := by
    intro m hm
    have hm := stable_of_mem_upperCodes hm
    rw [upperChars, hm.isChar, hm.upper, List.map_singleton]
  rw [upperChars, List.flatMap_map, List.map_eq_flatMap, List.flatMap_def, List.flatMap_def,
    List.map_congr_left hstable]

theorem uppercase_uppercase (s : String) : uppercase (uppercase s) = uppercase s := by
  rw [uppercase_eq (uppercase s), uppercase_eq s, String.toList_ofList, List.flatMap_assoc]
  congr 2
  funext c
  exact flatMap_upperChars c

end WindowGateway.Text
