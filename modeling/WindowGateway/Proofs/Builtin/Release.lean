import Mathlib.Data.List.Nodup
import WindowGateway.Builtin.Fraud
import WindowGateway.Proofs.Builtin.Field
import WindowGateway.Proofs.OrderedMap

/-! The release of cards by their counts, from whatever table. The first record that has no count is
what a release fails for, whatever stands around it. Where every record has one, those with more
than the threshold are released, as they are and in their order, so that a higher threshold releases
some of the same records. -/

namespace WindowGateway.Builtin

open Json (Document)

/-- The integer of 64 bits that a record gives as its count. -/
def Counts (record : Document) (n : Int) : Prop :=
  ∃ v, record.field? "count" = some v ∧ Denotes v n ∧ IsInt64 n

/-- How a release ends. -/
inductive Released (threshold : Nat) (table : RecordTable) :
    Except HookFault RecordTable → Prop
  | uncounted {front back : List (String × Document)} {card : String} {record : Document}
      {fault : FieldFault} (split : table.entries = front ++ (card, record) :: back)
      (before : ∀ e ∈ front, ∃ n, Counts e.2 n) (lacks : LacksInteger record "count" fault) :
      Released threshold table (.error (.failed s!"card '{card}': {fault.message}"))
  | counted {kept : RecordTable} (counts : ∀ e ∈ table.entries, ∃ n, Counts e.2 n)
      (order : kept.entries.Sublist table.entries)
      (above : ∀ e, e ∈ kept.entries ↔
        e ∈ table.entries ∧ ∃ n, Counts e.2 n ∧ (threshold : Int) < n) :
      Released threshold table (.ok kept)

section Release

variable {threshold : Nat} {table kept : RecordTable} {record : Document}

/-! ### Counts -/

theorem counts_iff {n : Int} : Counts record n ↔ integerField record "count" = .ok n :=
  integerField_eq_ok_iff.symm

theorem LacksInteger.not_counts {fault : FieldFault} (h : LacksInteger record "count" fault) :
    ¬∃ n, Counts record n := by
  rintro ⟨n, hn⟩
  rw [counts_iff, integerField_eq_error_iff.mpr h] at hn
  cases hn

/-- A record with more than the threshold. -/
def exceeds (threshold : Nat) (record : Document) : Bool :=
  match integerField record "count" with
  | .ok count => (threshold : Int) < count
  | .error _ => false

theorem exceeds_iff :
    exceeds threshold record = true ↔ ∃ n, Counts record n ∧ (threshold : Int) < n := by
  simp only [counts_iff]
  unfold exceeds
  cases integerField record "count" <;> simp

/-- What is wrong with an entry that has no count. -/
def complaint? (e : String × Document) : Option String :=
  match integerField e.2 "count" with
  | .error fault => some s!"card '{e.1}': {fault.message}"
  | .ok _ => none

theorem complaint?_eq_none_iff {e : String × Document} :
    complaint? e = none ↔ ∃ n, Counts e.2 n := by
  simp only [counts_iff]
  unfold complaint?
  cases integerField e.2 "count" <;> simp

theorem complaint?_eq_some_iff {e : String × Document} {text : String} :
    complaint? e = some text ↔
      ∃ fault, LacksInteger e.2 "count" fault ∧ s!"card '{e.1}': {fault.message}" = text := by
  simp only [← integerField_eq_error_iff]
  unfold complaint?
  cases integerField e.2 "count" <;> simp

/-- What is wrong with the first record that has no count. -/
def invalidCount? (table : RecordTable) : Option String := table.entries.findSome? complaint?

theorem invalidCount?_eq_none_iff :
    invalidCount? table = none ↔ ∀ e ∈ table.entries, ∃ n, Counts e.2 n := by
  simp only [invalidCount?, List.findSome?_eq_none_iff, complaint?_eq_none_iff]

theorem invalidCount?_eq_some_iff {text : String} :
    invalidCount? table = some text ↔
      ∃ front card record back fault, table.entries = front ++ (card, record) :: back ∧
        (∀ e ∈ front, ∃ n, Counts e.2 n) ∧ LacksInteger record "count" fault ∧
        s!"card '{card}': {fault.message}" = text := by
  simp only [invalidCount?, List.findSome?_eq_some_iff, complaint?_eq_none_iff,
    complaint?_eq_some_iff]
  constructor
  · rintro ⟨front, ⟨card, record⟩, back, hsplit, ⟨fault, hlacks, htext⟩, hfront⟩
    exact ⟨front, card, record, back, fault, hsplit, hfront, hlacks, htext⟩
  · rintro ⟨front, card, record, back, fault, hsplit, hfront, hlacks, htext⟩
    exact ⟨front, (card, record), back, hsplit, ⟨fault, hlacks, htext⟩, hfront⟩

/-! ### One pass and two

A release goes over the records once, and remembers the first that has no count. It comes to the
same as a look for that record, and then a filter. -/

theorem any_toNat? {n : Int} :
    (n.toNat?.any fun m => decide (threshold < m)) = decide ((threshold : Int) < n) := by
  cases n with
  | ofNat m => simp [Int.toNat?]
  | negSucc m =>
    have hneg : ¬(threshold : Int) < Int.negSucc m := by omega
    simp [Int.toNat?, hneg]

theorem releaseCard_eq (threshold : Nat) (invalid : Option String) (e : String × Document) :
    releaseCard threshold invalid e.1 e.2 =
      (if exceeds threshold e.2 then some e.2 else none, invalid.or (complaint? e)) := by
  unfold releaseCard exceeds complaint?
  cases integerField e.2 "count" with
  | ok n => simp only [any_toNat?, Option.or_none]
  | error fault => cases invalid <;> rfl

theorem retainEntries_releaseCard (threshold : Nat) (invalid : Option String)
    (es : List (String × Document)) :
    OrderedMap.retainEntries (releaseCard threshold) invalid es =
      (es.filter (exceeds threshold ·.2), invalid.or (es.findSome? complaint?)) := by
  induction es generalizing invalid with
  | nil => rw [OrderedMap.retainEntries, List.filter_nil, List.findSome?_nil, Option.or_none]
  | cons e es ih =>
    have hfirst : (e :: es).findSome? complaint? = (complaint? e).or (es.findSome? complaint?) := by
      rw [List.findSome?_cons]
      cases complaint? e <;> rfl
    rw [OrderedMap.retainEntries, releaseCard_eq threshold invalid e, hfirst, ← Option.or_assoc,
      List.filter_cons]
    by_cases he : exceeds threshold e.2 = true
    · simp only [if_pos he, ih]
    · simp only [if_neg he, ih]

/-- The release in two passes. -/
theorem release_eq (threshold : Nat) (table : RecordTable) :
    (fraudThreshold threshold).release table =
      match invalidCount? table with
      | some text => .error (.failed text)
      | none => .ok (table.retain fun _ record =>
          if exceeds threshold record then some record else none) := by
  have hpass : table.retainWith none (releaseCard threshold) =
      (table.retain fun _ record => if exceeds threshold record then some record else none,
        invalidCount? table) := by
    obtain ⟨hkept, hinvalid⟩ :=
      Prod.ext_iff.mp (retainEntries_releaseCard threshold none table.entries)
    refine Prod.ext (OrderedMap.ext ?_) hinvalid
    rw [OrderedMap.entries_retain]
    exact hkept
  simp only [fraudThreshold, hpass]
  cases invalidCount? table <;> rfl

/-! ### Ends -/

theorem release_eq_error {text : String} (h : invalidCount? table = some text) :
    (fraudThreshold threshold).release table = .error (.failed text) := by
  rw [release_eq, h]

theorem release_eq_ok (threshold : Nat) (h : ∀ e ∈ table.entries, ∃ n, Counts e.2 n) :
    ∃ kept, (fraudThreshold threshold).release table = .ok kept ∧
      kept.entries = table.entries.filter (exceeds threshold ·.2) := by
  refine ⟨_, ?_, OrderedMap.entries_retain table (exceeds threshold)⟩
  rw [release_eq, invalidCount?_eq_none_iff.mpr h]

theorem mem_filter_exceeds {e : String × Document} :
    e ∈ table.entries.filter (exceeds threshold ·.2) ↔
      e ∈ table.entries ∧ ∃ n, Counts e.2 n ∧ (threshold : Int) < n := by
  rw [List.mem_filter, exceeds_iff]

theorem released_release (threshold : Nat) (table : RecordTable) :
    Released threshold table ((fraudThreshold threshold).release table) := by
  cases hinvalid : invalidCount? table with
  | some text =>
    obtain ⟨front, card, record, back, fault, hsplit, hfront, hlacks, rfl⟩ :=
      invalidCount?_eq_some_iff.mp hinvalid
    rw [release_eq_error hinvalid]
    exact .uncounted hsplit hfront hlacks
  | none =>
    have hcounts := invalidCount?_eq_none_iff.mp hinvalid
    obtain ⟨kept, hkept, hentries⟩ := release_eq_ok threshold hcounts
    rw [hkept]
    refine .counted hcounts ?_ fun e => ?_
    · rw [hentries]
      exact List.filter_sublist
    · rw [hentries, mem_filter_exceeds]

/-- No more can be kept in order than a filter keeps. -/
theorem entries_of_released (h : Released threshold table (.ok kept)) :
    kept.entries = table.entries.filter (exceeds threshold ·.2) := by
  cases h with
  | counted _ order above =>
    -- No entry comes twice in either table, so the same members are as many entries, and a sublist
    -- of its own length is the whole list.
    have hsame : ∀ e, e ∈ kept.entries ↔ e ∈ table.entries.filter (exceeds threshold ·.2) :=
      fun e => (above e).trans mem_filter_exceeds.symm
    have hsublist := order.filter (exceeds threshold ·.2)
    rw [List.filter_eq_self.mpr fun e he => (List.mem_filter.mp ((hsame e).mp he)).2] at hsublist
    have hnodup := (List.Nodup.of_map _ table.distinct).filter (exceeds threshold ·.2)
    have hperm :=
      (List.perm_ext_iff_of_nodup (List.Nodup.of_map _ kept.distinct) hnodup).mpr hsame
    exact hsublist.eq_of_length hperm.length_eq

theorem release_eq_iff {x : Except HookFault RecordTable} :
    (fraudThreshold threshold).release table = x ↔ Released threshold table x := by
  constructor
  · rintro rfl
    exact released_release threshold table
  · intro h
    cases h with
    | uncounted hsplit hfront hlacks =>
      exact release_eq_error
        (invalidCount?_eq_some_iff.mpr ⟨_, _, _, _, _, hsplit, hfront, hlacks, rfl⟩)
    | counted hcounts order above =>
      obtain ⟨kept, hkept, hentries⟩ := release_eq_ok threshold hcounts
      have hsame := entries_of_released (.counted hcounts order above)
      rw [hkept, OrderedMap.ext (hentries.trans hsame.symm)]

end Release

/-- A release fails just if a record has no count, and then tells the first card whose record has
none; else it keeps the records with more than the threshold. A higher threshold drops records and
does nothing else. -/
structure ReleasesAbove (threshold : Nat) (table : RecordTable) : Prop where
  ends : ∀ x, (fraudThreshold threshold).release table = x ↔ Released threshold table x
  fails : (∃ fault, (fraudThreshold threshold).release table = .error fault) ↔
    ∃ e ∈ table.entries, ¬∃ n, Counts e.2 n
  raised : ∀ higher, threshold ≤ higher →
    (∀ fault, (fraudThreshold higher).release table = .error fault ↔
      (fraudThreshold threshold).release table = .error fault) ∧
    ∀ kept, (fraudThreshold threshold).release table = .ok kept →
      ∃ fewer, (fraudThreshold higher).release table = .ok fewer ∧
        fewer.entries.Sublist kept.entries

theorem release_error_iff {threshold : Nat} {table : RecordTable} :
    (∃ fault, (fraudThreshold threshold).release table = .error fault) ↔
      ∃ e ∈ table.entries, ¬∃ n, Counts e.2 n := by
  constructor
  · rintro ⟨fault, hfault⟩
    cases release_eq_iff.mp hfault with
    | uncounted hsplit _ hlacks =>
      exact ⟨_, hsplit ▸ List.mem_append_right _ List.mem_cons_self, hlacks.not_counts⟩
  · rintro ⟨e, he, hno⟩
    cases hrelease : (fraudThreshold threshold).release table with
    | error fault => exact ⟨fault, rfl⟩
    | ok kept =>
      cases release_eq_iff.mp hrelease with
      | counted counts => exact absurd (counts e he) hno

/-- The threshold has no say in what a release fails for. -/
theorem release_error_congr {threshold higher : Nat} {table : RecordTable} {fault : HookFault}
    (h : (fraudThreshold threshold).release table = .error fault) :
    (fraudThreshold higher).release table = .error fault := by
  cases release_eq_iff.mp h with
  | uncounted hsplit hfront hlacks => exact release_eq_iff.mpr (.uncounted hsplit hfront hlacks)

theorem release_ok_mono {threshold higher : Nat} {table kept : RecordTable}
    (hle : threshold ≤ higher) (h : (fraudThreshold threshold).release table = .ok kept) :
    ∃ fewer, (fraudThreshold higher).release table = .ok fewer ∧
      fewer.entries.Sublist kept.entries := by
  have hkept := entries_of_released (release_eq_iff.mp h)
  cases release_eq_iff.mp h with
  | counted hcounts =>
    obtain ⟨fewer, hfewer, hentries⟩ := release_eq_ok higher hcounts
    refine ⟨fewer, hfewer, ?_⟩
    rw [hentries, hkept]
    refine List.monotone_filter_right _ fun e he => ?_
    obtain ⟨n, hn, habove⟩ := exceeds_iff.mp he
    exact exceeds_iff.mpr ⟨n, hn, by omega⟩

theorem fraudThreshold_releasesAbove (threshold : Nat) (table : RecordTable) :
    ReleasesAbove threshold table where
  ends _ := release_eq_iff
  fails := release_error_iff
  raised _ hle :=
    ⟨fun _ => ⟨release_error_congr, release_error_congr⟩, fun _ => release_ok_mono hle⟩

end WindowGateway.Builtin
