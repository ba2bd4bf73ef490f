import Mathlib.Algebra.BigOperators.Group.List.Basic
import Mathlib.Algebra.Ring.Int.Defs
import Mathlib.Data.List.Induction
import Mathlib.Data.List.Nodup
import WindowGateway.Builtin.Tally
import WindowGateway.Proofs.Builtin.Field

/-! What a list of contributions amounts to: the keys in the order in which each came first, and for
each key the exact sum of its amounts. Totals are kept in 64 bits, so a list is bounded if no sum
leaves them on the way. -/

namespace WindowGateway.Builtin

/-! ### The order of first occurrence -/

section Order

variable {α β : Type} [DecidableEq α] [DecidableEq β]

theorem eraseDups_concat (xs : List α) (x : α) :
    (xs ++ [x]).eraseDups = if x ∈ xs then xs.eraseDups else xs.eraseDups ++ [x] := by
  rw [List.eraseDups_append]
  by_cases h : x ∈ xs
  · simp [List.removeAll, h]
  · simp [List.removeAll, h, List.eraseDups_cons]

theorem nodup_eraseDups (xs : List α) : xs.eraseDups.Nodup := by
  induction xs using List.reverseRecOn with
  | nil => exact .nil
  | append_singleton xs x ih =>
    rw [eraseDups_concat]
    split
    · exact ih
    · next hx =>
      refine List.nodup_append.mpr ⟨ih, by simp, fun a ha b hb => ?_⟩
      obtain rfl : b = x := List.mem_singleton.mp hb
      rintro rfl
      exact hx (List.mem_eraseDups.mp ha)

theorem eraseDups_perm {xs ys : List α} (h : xs.Perm ys) : xs.eraseDups.Perm ys.eraseDups := by
  refine (List.perm_ext_iff_of_nodup (nodup_eraseDups xs) (nodup_eraseDups ys)).mpr fun x => ?_
  rw [List.mem_eraseDups, List.mem_eraseDups, h.mem_iff]

/-- What comes first among the images is an image of what comes first. -/
theorem eraseDups_map_eraseDups (f : α → β) (xs : List α) :
    (xs.eraseDups.map f).eraseDups = (xs.map f).eraseDups := by
  induction xs using List.reverseRecOn with
  | nil => rfl
  | append_singleton xs x ih =>
    rw [List.map_append, List.map_singleton, eraseDups_concat, eraseDups_concat]
    by_cases hx : x ∈ xs
    · rw [if_pos hx, if_pos (List.mem_map_of_mem hx), ih]
    · rw [if_neg hx, List.map_append, List.map_singleton, eraseDups_concat, ih]
      simp only [List.mem_map, List.mem_eraseDups]

end Order

/-! ### Keys and totals -/

variable {cs ds : List Contribution} {c : Contribution} {key : String}

/-- The keys, in the order in which each came first. -/
def keysOf (cs : List Contribution) : List String := (cs.map (·.key)).eraseDups

/-- The amounts for a key, in order. -/
def amountsOf (key : String) (cs : List Contribution) : List Int :=
  (cs.filter (·.key = key)).map (·.amount)

def totalOf (key : String) (cs : List Contribution) : Int := (amountsOf key cs).sum

/-- The contribution that brought a key. -/
def firstOf? (key : String) (cs : List Contribution) : Option Contribution :=
  cs.find? (·.key = key)

/-- No sum of the first amounts for a key leaves 64 bits. -/
def Bounded (cs : List Contribution) : Prop :=
  ∀ key front, front <+: amountsOf key cs → IsInt64 front.sum

theorem mem_keysOf : key ∈ keysOf cs ↔ ∃ c ∈ cs, c.key = key := by
  rw [keysOf, List.mem_eraseDups, List.mem_map]

theorem keysOf_concat :
    keysOf (cs ++ [c]) = if c.key ∈ keysOf cs then keysOf cs else keysOf cs ++ [c.key] := by
  simp only [keysOf, List.map_append, List.map_singleton, eraseDups_concat, List.mem_eraseDups]

theorem amountsOf_append : amountsOf key (cs ++ ds) = amountsOf key cs ++ amountsOf key ds := by
  rw [amountsOf, List.filter_append, List.map_append]
  rfl

theorem amountsOf_singleton_self : amountsOf c.key [c] = [c.amount] := by
  simp [amountsOf]

theorem amountsOf_singleton_ne (h : c.key ≠ key) : amountsOf key [c] = [] := by
  simp [amountsOf, h]

theorem totalOf_concat_self : totalOf c.key (cs ++ [c]) = totalOf c.key cs + c.amount := by
  rw [totalOf, amountsOf_append, amountsOf_singleton_self, List.sum_append, List.sum_singleton]
  rfl

theorem totalOf_concat_ne (h : c.key ≠ key) : totalOf key (cs ++ [c]) = totalOf key cs := by
  rw [totalOf, amountsOf_append, amountsOf_singleton_ne h, List.append_nil]
  rfl

theorem amountsOf_of_not_mem (h : key ∉ keysOf cs) : amountsOf key cs = [] := by
  have hnone : cs.filter (·.key = key) = [] := by
    refine List.filter_eq_nil_iff.mpr fun c hc he => h ?_
    exact mem_keysOf.mpr ⟨c, hc, of_decide_eq_true he⟩
  rw [amountsOf, hnone]
  rfl

theorem totalOf_of_not_mem (h : key ∉ keysOf cs) : totalOf key cs = 0 := by
  rw [totalOf, amountsOf_of_not_mem h]
  rfl

theorem firstOf?_concat_of_some {first : Contribution} (h : firstOf? key cs = some first) :
    firstOf? key (cs ++ [c]) = some first := by
  rw [firstOf?] at h ⊢
  rw [List.find?_append, h]
  rfl

theorem firstOf?_concat_self (h : c.key ∉ keysOf cs) : firstOf? c.key (cs ++ [c]) = some c := by
  have hnone : cs.find? (·.key = c.key) = none := by
    refine List.find?_eq_none.mpr fun d hd he => h ?_
    exact mem_keysOf.mpr ⟨d, hd, of_decide_eq_true he⟩
  rw [firstOf?, List.find?_append, hnone]
  simp

theorem mem_of_firstOf? {first : Contribution} (h : firstOf? key cs = some first) :
    first ∈ cs ∧ first.key = key :=
  ⟨List.mem_of_find?_eq_some h, by simpa using List.find?_some h⟩

/-! ### Subtotals -/

theorem totalOf_cons :
    totalOf key (c :: cs) =
      if key = c.key then c.amount + totalOf key cs else totalOf key cs := by
  by_cases h : key = c.key
  · simp [totalOf, amountsOf, h]
  · simp [totalOf, amountsOf, h, Ne.symm h]

/-- The totals of different keys add up to all the amounts for these keys. -/
theorem sum_totals {keys : List String} (hkeys : keys.Nodup) :
    (keys.map (totalOf · cs)).sum = ((cs.filter (·.key ∈ keys)).map (·.amount)).sum := by
  induction cs with
  | nil => simp [totalOf, amountsOf]
  | cons c cs ih =>
    simp only [totalOf_cons, List.sum_map_ite_eq, add_sub_cancel_right, ih, List.filter_cons]
    by_cases hc : c.key ∈ keys
    · rw [List.count_eq_one_of_mem hkeys hc, one_nsmul, if_pos (decide_eq_true hc), List.map_cons,
        List.sum_cons]
    · rw [List.count_eq_zero_of_not_mem hc, zero_nsmul, zero_add, if_neg (by simpa using hc)]

section Subtotals

variable (make : String → Int → Contribution) (hkey : ∀ key n, (make key n).key = key)
  (f : String → String) (cs : List Contribution)

include hkey

/-- Totals contributed again under other keys come in the order of these keys. -/
theorem keysOf_subtotals :
    keysOf ((keysOf cs).map fun key => make (f key) (totalOf key cs)) =
      keysOf (cs.map fun c => make (f c.key) c.amount) := by
  calc keysOf ((keysOf cs).map fun key => make (f key) (totalOf key cs))
    _ = ((keysOf cs).map f).eraseDups := by
      rw [keysOf, List.map_map]
      simp only [Function.comp_def, hkey]
    _ = ((cs.map (·.key)).map f).eraseDups := eraseDups_map_eraseDups f _
    _ = keysOf (cs.map fun c => make (f c.key) c.amount) := by
      rw [keysOf, List.map_map, List.map_map]
      simp only [Function.comp_def, hkey]

/-- Totals contributed again under other keys add up to what the amounts themselves do. -/
theorem totalOf_subtotals (hamount : ∀ key n, (make key n).amount = n) (t : String) :
    totalOf t ((keysOf cs).map fun key => make (f key) (totalOf key cs)) =
      totalOf t (cs.map fun c => make (f c.key) c.amount) := by
  have hnodup : ((keysOf cs).filter (f · = t)).Nodup := (nodup_eraseDups _).filter _
  have hsame : cs.filter (·.key ∈ (keysOf cs).filter (f · = t)) = cs.filter (f ·.key = t) := by
    refine List.filter_congr fun c hc => ?_
    have hmem : c.key ∈ keysOf cs := mem_keysOf.mpr ⟨c, hc, rfl⟩
    simp [hmem]
  calc totalOf t ((keysOf cs).map fun key => make (f key) (totalOf key cs))
    _ = (((keysOf cs).filter (f · = t)).map (totalOf · cs)).sum := by
      rw [totalOf, amountsOf, List.filter_map, List.map_map]
      simp only [Function.comp_def, hkey, hamount]
    _ = ((cs.filter (f ·.key = t)).map (·.amount)).sum := by
      rw [sum_totals hnodup, hsame]
    _ = totalOf t (cs.map fun c => make (f c.key) c.amount) := by
      rw [totalOf, amountsOf, List.filter_map, List.map_map]
      simp only [Function.comp_def, hkey, hamount]

end Subtotals

/-! ### Bounds -/

theorem bounded_nil : Bounded [] := by
  intro key front h
  obtain rfl : front = [] := List.prefix_nil.mp h
  decide

theorem Bounded.total (h : Bounded cs) (key : String) : IsInt64 (totalOf key cs) :=
  h key _ (List.prefix_refl _)

theorem Bounded.of_append (h : Bounded (cs ++ ds)) : Bounded cs := by
  intro key front hfront
  refine h key front (hfront.trans ?_)
  rw [amountsOf_append]
  exact List.prefix_append _ _

/-- One more contribution keeps the list bounded if the total of its key stays in 64 bits. -/
theorem bounded_concat (h : Bounded cs) (hc : IsInt64 (totalOf c.key (cs ++ [c]))) :
    Bounded (cs ++ [c]) := by
  intro key front hfront
  by_cases hk : c.key = key
  · subst hk
    rw [totalOf] at hc
    rw [amountsOf_append, amountsOf_singleton_self] at hc hfront
    rcases List.prefix_concat_iff.mp hfront with rfl | hfront
    · exact hc
    · exact h _ _ hfront
  · rw [amountsOf_append, amountsOf_singleton_ne hk, List.append_nil] at hfront
    exact h _ _ hfront

end WindowGateway.Builtin
