import WindowGateway.Proofs.OrderedMap

/-! Histories of a map. Whatever is done to a map, its keys stand in the order of the insertions
that brought them, and every answer is the one that the records of the keys call for. The account
of this is kept for each key by itself, without a list of entries: it knows of a key that is present
how many insertions came before the one that brought it. -/

namespace WindowGateway.OrderedMap

variable {α : Type}

/-! ### Operations -/

/-- What can be done to a map. `make` and `change` are called where the map needs them, `edit` is
what the caller does to the record that it gets, and `keep` drops a record or says what becomes of
it. -/
inductive Operation (α : Type)
  | load (es : List (String × α))
  | insert (key : String) (record : α)
  | getOrInsert (key : String) (make : α) (edit : α → α)
  | update (key : String) (change : α → α)
  | remove (key : String)
  | retain (keep : String → α → Option α)

/-- What an operation answers. `calls` tells how often the function that it was given was called. -/
inductive Answer (α : Type)
  | done
  | previous (record : Option α)
  | got (record : α) (calls : Nat)
  | found (present : Bool) (calls : Nat)
  deriving DecidableEq

/-- What a function gives, with its call counted. -/
def called (value : α) : StateM Nat α := modifyGet fun calls => (value, calls + 1)

/-- The answer of an operation, and the map that it leaves. -/
def perform (t : OrderedMap α) : Operation α → Answer α × OrderedMap α
  | .load es => (.done, ofList es)
  | .insert key record =>
    let (previous, t) := t.put key record
    (.previous previous, t)
  | .getOrInsert key make edit =>
    let ((record, t), calls) := (t.getOrInsertM key (called make)).run 0
    (.got record calls, t.insert key (edit record))
  | .update key change =>
    let ((present, t), calls) := (t.updateM key fun record => called (change record)).run 0
    (.found present calls, t)
  | .remove key =>
    let (previous, t) := t.take key
    (.previous previous, t)
  | .retain keep => (.done, t.retain keep)

section Perform

variable {t : OrderedMap α} {key : String} {record make : α} {edit change : α → α}

theorem perform_getOrInsert_of_some (h : t.get? key = some record) :
    t.perform (.getOrInsert key make edit) = (.got record 0, t.insert key (edit record)) := by
  simp only [perform, getOrInsertM, h]
  rfl

theorem perform_getOrInsert_of_none (h : t.get? key = none) :
    t.perform (.getOrInsert key make edit) = (.got make 1, t.insert key (edit make)) := by
  rw [← insert_insert t key make (edit make)]
  simp only [perform, getOrInsertM, h]
  rfl

theorem perform_update_of_some (h : t.get? key = some record) :
    t.perform (.update key change) = (.found true 1, t.insert key (change record)) := by
  simp only [perform, updateM, h]
  rfl

theorem perform_update_of_none (h : t.get? key = none) :
    t.perform (.update key change) = (.found false 0, t) := by
  simp only [perform, updateM, h]
  rfl

end Perform

/-- The answers of operations one after another, and the map that they leave. -/
def performAll (t : OrderedMap α) : List (Operation α) → List (Answer α) × OrderedMap α
  | [] => ([], t)
  | op :: ops =>
    let (answer, t) := t.perform op
    let (answers, t) := t.performAll ops
    (answer :: answers, t)

/-! ### The account of a history -/

/-- The stay of a key in a map: how many insertions came before the one that brought the key, and
the record that the key has now. -/
structure Stay (α : Type) where
  since : Nat
  record : α

/-- How many insertions there were, and the stay of each key that is present. -/
structure Account (α : Type) where
  insertions : Nat
  stay? : String → Option (Stay α)

namespace Account

def blank : Account α := ⟨0, fun _ => none⟩

def record? (a : Account α) (key : String) : Option α := (a.stay? key).map Stay.record

/-- One more insertion. A key that is present goes on with its stay. -/
def set (a : Account α) (key : String) (record : α) : Account α where
  insertions := a.insertions + 1
  stay? other :=
    if other = key then
      match a.stay? key with
      | some stay => some { stay with record }
      | none => some ⟨a.insertions, record⟩
    else a.stay? other

/-- The stays that `keep` ends are over, and the others go on. -/
def restrict (a : Account α) (keep : String → α → Option α) : Account α where
  insertions := a.insertions
  stay? key := (a.stay? key).bind fun stay => (keep key stay.record).map (⟨stay.since, ·⟩)

def after (a : Account α) : Operation α → Account α
  | .load es => es.foldl (fun a e => a.set e.1 e.2) { a with stay? := fun _ => none }
  | .insert key record => a.set key record
  | .getOrInsert key make edit => a.set key (edit ((a.record? key).getD make))
  | .update key change =>
    match a.record? key with
    | some record => a.set key (change record)
    | none => a
  | .remove key => a.restrict fun other record => if other = key then none else some record
  | .retain keep => a.restrict keep

/-- The answer that the records call for. -/
def answer (a : Account α) : Operation α → Answer α
  | .load _ | .retain _ => .done
  | .insert key _ | .remove key => .previous (a.record? key)
  | .getOrInsert key make _ =>
    .got ((a.record? key).getD make) (if (a.record? key).isSome then 0 else 1)
  | .update key _ => .found (a.record? key).isSome (if (a.record? key).isSome then 1 else 0)

def afterAll (a : Account α) (ops : List (Operation α)) : Account α := ops.foldl after a

def answers (a : Account α) : List (Operation α) → List (Answer α)
  | [] => []
  | op :: ops => a.answer op :: (a.after op).answers ops

/-- Both keys are present, and the stay of the first began before that of the second. -/
def Before (a : Account α) (key other : String) : Prop :=
  ∃ s u, a.stay? key = some s ∧ a.stay? other = some u ∧ s.since < u.since

section Stays

variable {a : Account α} {key other : String} {record : α}

theorem record?_set_self : (a.set key record).record? key = some record := by
  simp only [record?, set]
  cases a.stay? key <;> rfl

theorem record?_set_ne (h : other ≠ key) :
    (a.set key record).record? other = a.record? other := by
  rw [record?, set, record?]
  simp only [if_neg h]

/-- No insertion touches the beginning of a stay. -/
theorem stay?_set_of_some {s : Stay α} (h : a.stay? other = some s) (key : String) (record : α) :
    ∃ r, (a.set key record).stay? other = some ⟨s.since, r⟩ := by
  by_cases hkey : other = key
  · subst hkey
    exact ⟨record, by simp only [set, if_pos, h]⟩
  · exact ⟨s.record, by simp only [set, if_neg hkey, h]⟩

theorem stay?_set_of_none (h : a.stay? key = none) :
    (a.set key record).stay? key = some ⟨a.insertions, record⟩ := by
  simp only [set, if_pos, h]

theorem stay?_of_set {s : Stay α} (h : (a.set key record).stay? other = some s) :
    s.since = a.insertions ∨ ∃ r, a.stay? other = some ⟨s.since, r⟩ := by
  cases hstay : a.stay? other with
  | some u =>
    obtain ⟨r, hu⟩ := stay?_set_of_some hstay key record
    obtain rfl : ⟨u.since, r⟩ = s := Option.some.inj (hu.symm.trans h)
    exact .inr ⟨u.record, rfl⟩
  | none =>
    by_cases hkey : other = key
    · subst hkey
      obtain rfl := Option.some.inj ((stay?_set_of_none hstay).symm.trans h)
      exact .inl rfl
    · simp only [set, if_neg hkey, hstay] at h
      cases h

theorem Before.set (h : a.Before key other) {third : String} :
    (a.set third record).Before key other := by
  obtain ⟨s, u, hs, hu, hlt⟩ := h
  obtain ⟨r, hs'⟩ := stay?_set_of_some hs third record
  obtain ⟨r', hu'⟩ := stay?_set_of_some hu third record
  exact ⟨_, _, hs', hu', hlt⟩

variable {keep : String → α → Option α}

theorem record?_restrict : (a.restrict keep).record? key = (a.record? key).bind (keep key) := by
  simp only [record?, restrict]
  cases a.stay? key with
  | none => rfl
  | some s =>
    simp only [Option.bind_some, Option.map_some, Option.map_map]
    exact Option.map_id'

/-- A stay that goes on began when it began. -/
theorem stay?_of_restrict {s : Stay α} (h : (a.restrict keep).stay? key = some s) :
    ∃ r, a.stay? key = some ⟨s.since, r⟩ := by
  obtain ⟨u, hu, hkept⟩ := Option.bind_eq_some_iff.mp h
  obtain ⟨r, _, rfl⟩ := Option.map_eq_some_iff.mp hkept
  exact ⟨u.record, hu⟩

end Stays

end Account

/-! ### One operation -/

/-- The account tells the records of a map and the order of its keys. -/
structure Tells (a : Account α) (t : OrderedMap α) : Prop where
  record : ∀ key, t.get? key = a.record? key
  order : t.keys.Pairwise a.Before
  past : ∀ key s, a.stay? key = some s → s.since < a.insertions

section Step

variable {a : Account α} {t : OrderedMap α}

theorem mem_keys_iff_stay (h : ∀ key, t.get? key = a.record? key) {key : String} :
    key ∈ t.keys ↔ ∃ s, a.stay? key = some s := by
  have hrecord := h key
  cases hstay : a.stay? key with
  | none =>
    rw [Account.record?, hstay] at hrecord
    simpa using get?_eq_none_iff.mp hrecord
  | some s =>
    rw [Account.record?, hstay] at hrecord
    simpa using mem_keys_of_get? hrecord

theorem tells_empty (insertions : Nat) :
    Tells (⟨insertions, fun _ => none⟩ : Account α) empty where
  record _ := rfl
  order := .nil
  past _ _ h := by cases h

/-- An insertion leaves a key that is present in its place, and puts a new one last. -/
theorem Tells.set (h : Tells a t) (key : String) (record : α) :
    Tells (a.set key record) (t.insert key record) where
  record other := by
    by_cases hkey : other = key
    · subst hkey
      rw [get?_insert_self, Account.record?_set_self]
    · rw [get?_insert_ne t hkey, Account.record?_set_ne hkey, h.record]
  order := by
    have hold : t.keys.Pairwise (a.set key record).Before := h.order.imp fun hlt => hlt.set
    rw [keys_insert]
    split
    · exact hold
    · next hnew =>
      have hnone : a.stay? key = none := by
        rw [Option.eq_none_iff_forall_ne_some]
        exact fun u hu => hnew ((mem_keys_iff_stay h.record).mpr ⟨u, hu⟩)
      refine List.pairwise_append.mpr ⟨hold, List.pairwise_singleton _ _, ?_⟩
      intro first hfirst last hlast
      obtain rfl := List.mem_singleton.mp hlast
      obtain ⟨s, hs⟩ := (mem_keys_iff_stay h.record).mp hfirst
      obtain ⟨r, hs'⟩ := Account.stay?_set_of_some hs last record
      exact ⟨_, _, hs', Account.stay?_set_of_none hnone, h.past first s hs⟩
  past other s hs := by
    rcases Account.stay?_of_set hs with hsince | ⟨r, hr⟩
    · exact hsince ▸ Nat.lt_succ_self _
    · exact Nat.lt_succ_of_lt (h.past other ⟨s.since, r⟩ hr)

theorem Tells.load (h : Tells a t) (es : List (String × α)) :
    Tells (es.foldl (fun a e => a.set e.1 e.2) a) (es.foldl (fun t e => t.insert e.1 e.2) t) := by
  induction es generalizing a t with
  | nil => exact h
  | cons e es ih => exact ih (h.set e.1 e.2)

/-- The entries that stay keep their order. -/
theorem Tells.restrict (h : Tells a t) (keep : String → α → Option α) :
    Tells (a.restrict keep) (t.retain keep) := by
  have hrecord : ∀ key, (t.retain keep).get? key = (a.restrict keep).record? key := fun key => by
    rw [get?_retain, h.record, Account.record?_restrict]
  refine ⟨hrecord, ?_, fun key s hs => ?_⟩
  · have hold : (t.retain keep).keys.Pairwise a.Before :=
      h.order.sublist (keys_filterMap_sublist keep t.entries)
    refine hold.imp_of_mem fun {first last} hfirst hlast hlt => ?_
    obtain ⟨s, hs⟩ := (mem_keys_iff_stay hrecord).mp hfirst
    obtain ⟨u, hu⟩ := (mem_keys_iff_stay hrecord).mp hlast
    obtain ⟨s', u', hs', hu', hlt⟩ := hlt
    obtain ⟨r, hr⟩ := Account.stay?_of_restrict hs
    obtain ⟨r', hr'⟩ := Account.stay?_of_restrict hu
    obtain rfl := Option.some.inj (hs'.symm.trans hr)
    obtain rfl := Option.some.inj (hu'.symm.trans hr')
    exact ⟨s, u, hs, hu, hlt⟩
  · obtain ⟨r, hr⟩ := Account.stay?_of_restrict hs
    exact h.past key ⟨s.since, r⟩ hr

/-- Every operation answers as the account says, and leaves the map that the account tells. -/
theorem Tells.perform (h : Tells a t) (op : Operation α) :
    (t.perform op).1 = a.answer op ∧ Tells (a.after op) (t.perform op).2 := by
  cases op with
  | load es => exact ⟨rfl, (tells_empty a.insertions).load es⟩
  | insert key record =>
    refine ⟨?_, h.set key record⟩
    show Answer.previous (t.get? key) = .previous (a.record? key)
    rw [h.record]
  | getOrInsert key make edit =>
    cases hget : t.get? key with
    | some record =>
      rw [perform_getOrInsert_of_some hget, Account.answer, Account.after, ← h.record, hget]
      exact ⟨rfl, h.set key (edit record)⟩
    | none =>
      rw [perform_getOrInsert_of_none hget, Account.answer, Account.after, ← h.record, hget]
      exact ⟨rfl, h.set key (edit make)⟩
  | update key change =>
    cases hget : t.get? key with
    | some record =>
      rw [perform_update_of_some hget, Account.answer, Account.after, ← h.record, hget]
      exact ⟨rfl, h.set key (change record)⟩
    | none =>
      rw [perform_update_of_none hget, Account.answer, Account.after, ← h.record, hget]
      exact ⟨rfl, h⟩
  | remove key =>
    constructor
    · show Answer.previous (t.get? key) = .previous (a.record? key)
      rw [h.record]
    · show Tells (a.after (.remove key)) (t.erase key)
      rw [erase_eq_retain, Account.after]
      exact h.restrict _
  | retain keep => exact ⟨rfl, h.restrict keep⟩

/-! ### A history -/

theorem Tells.performAll (h : Tells a t) (ops : List (Operation α)) :
    (t.performAll ops).1 = a.answers ops ∧ Tells (a.afterAll ops) (t.performAll ops).2 := by
  induction ops generalizing a t with
  | nil => exact ⟨rfl, h⟩
  | cons op ops ih =>
    obtain ⟨hanswer, hnext⟩ := h.perform op
    obtain ⟨hanswers, hlast⟩ := ih hnext
    refine ⟨?_, hlast⟩
    show (t.perform op).1 :: ((t.perform op).2.performAll ops).1 = _
    rw [hanswer, hanswers, Account.answers]

end Step

/-- What the readers of a map show: one list, with the records that the account tells, in the order
in which the stays began. -/
structure Shows (a : Account α) (t : OrderedMap α) : Prop where
  distinct : t.keys.Nodup
  order : t.keys.Pairwise a.Before
  records : ∀ key record, (key, record) ∈ t.entries ↔ a.record? key = some record
  get : ∀ key record, t.get? key = some record ↔ (key, record) ∈ t.entries
  contains : ∀ key, t.contains key = true ↔ key ∈ t.keys
  size : t.size = t.entries.length
  keys : t.keys = t.entries.map Prod.fst
  values : t.values = t.entries.map Prod.snd

theorem Tells.shows {a : Account α} {t : OrderedMap α} (h : Tells a t) : Shows a t where
  distinct := t.distinct
  order := h.order
  records key record := by rw [mem_entries_iff, h.record]
  get _ _ := mem_entries_iff.symm
  contains key := by
    rw [contains, Option.isSome_iff_ne_none, Ne, get?_eq_none_iff, not_not]
  size := rfl
  keys := rfl
  values := rfl

/-- After any history the readers show one list, in which a key stands where the insertion that last
brought it has put it; and every operation of the history has given the record that was there, and
has called its function just if it was to. -/
theorem performAll_account (ops : List (Operation α)) :
    (empty.performAll ops).1 = Account.blank.answers ops ∧
      Shows (Account.blank.afterAll ops) (empty.performAll ops).2 := by
  obtain ⟨hanswers, htells⟩ := (tells_empty 0).performAll ops
  exact ⟨hanswers, htells.shows⟩

example :
    let (answers, t) := empty.performAll [.load [("a", 1), ("b", 2), ("a", 3)], .remove "a",
      .getOrInsert "a" 4 (· + 1), .update "b" (· * 2), .update "c" (· * 2)]
    t.entries = [("b", 4), ("a", 5)] ∧
      answers = [.done, .previous (some 3), .got 4 1, .found true 1, .found false 0] := by
  decide

end WindowGateway.OrderedMap
