/-! Maps from text keys that remember the order in which their keys came. An entry keeps its
position when its value is replaced, and a key that was removed and comes back goes last. Every
operation is described by what it does to `entries`. -/

namespace WindowGateway

/-- The entries with `value` at `key`: in the place of the entry with that key, or at the end. -/
def setEntry (key : String) (value : α) : List (String × α) → List (String × α)
  | [] => [(key, value)]
  | (k, v) :: es => if k = key then (key, value) :: es else (k, v) :: setEntry key value es

theorem keys_setEntry (key : String) (value : α) (es : List (String × α)) :
    (setEntry key value es).map Prod.fst =
      if key ∈ es.map Prod.fst then es.map Prod.fst else es.map Prod.fst ++ [key] := by
  induction es with
  | nil => rfl
  | cons e es ih =>
    obtain ⟨k, v⟩ := e
    by_cases h : k = key
    · subst h; simp [setEntry]
    · have hne : key ≠ k := fun e => h e.symm
      simp only [setEntry, h, if_false, List.map_cons, ih, List.mem_cons, hne, false_or]
      split <;> rfl

theorem nodup_keys_setEntry (key : String) (value : α) {es : List (String × α)}
    (h : (es.map Prod.fst).Nodup) : ((setEntry key value es).map Prod.fst).Nodup := by
  rw [keys_setEntry]
  split
  · exact h
  · next hk =>
    refine List.nodup_append.mpr ⟨h, by simp, fun a ha b hb => ?_⟩
    obtain rfl : b = key := by simpa using hb
    exact fun e => hk (e ▸ ha)

/-- A member of the entries after a replacement is the new entry or was there before. -/
theorem mem_setEntry {key : String} {value : α} {es : List (String × α)} {e : String × α}
    (h : e ∈ setEntry key value es) : e = (key, value) ∨ e ∈ es := by
  induction es with
  | nil => exact .inl (by simpa [setEntry] using h)
  | cons f es ih =>
    obtain ⟨k, v⟩ := f
    rw [setEntry] at h
    split at h
    · rcases List.mem_cons.mp h with h | h
      · exact .inl h
      · exact .inr (List.mem_cons_of_mem _ h)
    · rcases List.mem_cons.mp h with h | h
      · exact .inr (h ▸ List.mem_cons_self)
      · exact (ih h).imp_right (List.mem_cons_of_mem _)

theorem setEntry_of_not_mem {key : String} {value : α} {es : List (String × α)}
    (h : key ∉ es.map Prod.fst) : setEntry key value es = es ++ [(key, value)] := by
  induction es with
  | nil => rfl
  | cons e es ih =>
    obtain ⟨k, v⟩ := e
    rw [List.map_cons, List.mem_cons, not_or] at h
    have hne : k ≠ key := fun he => h.1 he.symm
    rw [setEntry, if_neg hne, ih h.2, List.cons_append]

theorem not_mem_of_nodup_append {done es : List (String × α)} {e : String × α}
    (h : ((done ++ e :: es).map Prod.fst).Nodup) : e.1 ∉ done.map Prod.fst := by
  rw [List.map_append, List.nodup_append] at h
  intro hmem
  exact h.2.2 e.1 hmem e.1 List.mem_cons_self rfl

theorem lookup_setEntry_self (key : String) (value : α) (es : List (String × α)) :
    (setEntry key value es).lookup key = some value := by
  induction es with
  | nil => simp [setEntry]
  | cons e es ih =>
    obtain ⟨k, v⟩ := e
    by_cases h : k = key
    · simp [setEntry, h]
    · have hne : (key == k) = false := beq_eq_false_iff_ne.mpr fun he => h he.symm
      simp [setEntry, h, List.lookup_cons, hne, ih]

theorem lookup_setEntry_ne {key other : String} (h : other ≠ key) (value : α)
    (es : List (String × α)) : (setEntry key value es).lookup other = es.lookup other := by
  induction es with
  | nil =>
    have hne : (other == key) = false := beq_eq_false_iff_ne.mpr h
    simp [setEntry, List.lookup_cons, hne]
  | cons e es ih =>
    obtain ⟨k, v⟩ := e
    by_cases hk : k = key
    · subst hk
      have hne : (other == k) = false := beq_eq_false_iff_ne.mpr h
      simp [setEntry, List.lookup_cons, hne]
    · simp [setEntry, hk, List.lookup_cons, ih]

/-- A map from text keys, as its entries in order; no key comes twice. -/
@[ext] structure OrderedMap (α : Type) where
  entries : List (String × α)
  distinct : (entries.map Prod.fst).Nodup

namespace OrderedMap

variable {α β σ : Type} {m : Type → Type}

def empty : OrderedMap α := ⟨[], .nil⟩

instance : Inhabited (OrderedMap α) := ⟨empty⟩

def get? (t : OrderedMap α) (key : String) : Option α := t.entries.lookup key

def contains (t : OrderedMap α) (key : String) : Bool := (t.get? key).isSome

def size (t : OrderedMap α) : Nat := t.entries.length

def isEmpty (t : OrderedMap α) : Bool := t.entries.isEmpty

def keys (t : OrderedMap α) : List String := t.entries.map Prod.fst

def values (t : OrderedMap α) : List α := t.entries.map Prod.snd

def insert (t : OrderedMap α) (key : String) (value : α) : OrderedMap α :=
  ⟨setEntry key value t.entries, nodup_keys_setEntry key value t.distinct⟩

@[simp] theorem get?_insert_self (t : OrderedMap α) (key : String) (value : α) :
    (t.insert key value).get? key = some value := lookup_setEntry_self key value t.entries

theorem get?_insert_ne (t : OrderedMap α) {key other : String} (h : other ≠ key) (value : α) :
    (t.insert key value).get? other = t.get? other := lookup_setEntry_ne h value t.entries

/-- Inserts, and returns the value that was at the key before. -/
def put (t : OrderedMap α) (key : String) (value : α) : Option α × OrderedMap α :=
  (t.get? key, t.insert key value)

/-- The map without `key`; the other entries keep their order. -/
def erase (t : OrderedMap α) (key : String) : OrderedMap α :=
  ⟨t.entries.filter fun e => e.1 ≠ key,
    (List.filter_sublist.map Prod.fst).nodup t.distinct⟩

/-- Erases, and returns the value that was at the key before. -/
def take (t : OrderedMap α) (key : String) : Option α × OrderedMap α :=
  (t.get? key, t.erase key)

def ofList (es : List (String × α)) : OrderedMap α :=
  es.foldl (fun t e => t.insert e.1 e.2) empty

/-- The value at `key`, which `make` makes if there is none yet. -/
def getOrInsertM [Monad m] (t : OrderedMap α) (key : String) (make : m α) :
    m (α × OrderedMap α) :=
  match t.get? key with
  | some value => pure (value, t)
  | none => do
    let value ← make
    pure (value, t.insert key value)

/-- The value at `key`, which is `value` if there was none. -/
def getOrInsert (t : OrderedMap α) (key : String) (value : α) : α × OrderedMap α :=
  Id.run (t.getOrInsertM key (pure value))

/-- Changes the value at `key`; says whether there was one. -/
def updateM [Monad m] (t : OrderedMap α) (key : String) (change : α → m α) :
    m (Bool × OrderedMap α) :=
  match t.get? key with
  | some value => do
    let value ← change value
    pure (true, t.insert key value)
  | none => pure (false, t)

theorem keys_filterMap_sublist (keep : String → α → Option β) (es : List (String × α)) :
    ((es.filterMap fun e => (keep e.1 e.2).map (e.1, ·)).map Prod.fst).Sublist
      (es.map Prod.fst) := by
  induction es with
  | nil => exact .slnil
  | cons e es ih =>
    cases h : keep e.1 e.2 with
    | none => simpa [List.filterMap_cons, h] using ih.cons e.1
    | some v => simpa [List.filterMap_cons, h] using ih.cons_cons e.1

/-- The entries for which `keep` has a value, with that value, in their order. -/
def retain (t : OrderedMap α) (keep : String → α → Option β) : OrderedMap β :=
  ⟨t.entries.filterMap fun e => (keep e.1 e.2).map (e.1, ·),
    (keys_filterMap_sublist keep t.entries).nodup t.distinct⟩

/-- One pass over entries: `step` says what becomes of an entry, and what is known after it. -/
def retainEntries (step : σ → String → α → Option β × σ) :
    σ → List (String × α) → List (String × β) × σ
  | known, [] => ([], known)
  | known, (key, value) :: es =>
    match step known key value with
    | (none, known) => retainEntries step known es
    | (some kept, known) =>
      let (es, known) := retainEntries step known es
      ((key, kept) :: es, known)

theorem keys_retainEntries_sublist (step : σ → String → α → Option β × σ) (known : σ)
    (es : List (String × α)) :
    ((retainEntries step known es).1.map Prod.fst).Sublist (es.map Prod.fst) := by
  induction es generalizing known with
  | nil => exact .slnil
  | cons e es ih =>
    rw [retainEntries]
    split
    · exact (ih _).cons e.1
    · exact (ih _).cons_cons e.1

/-- Retains entries in one pass that remembers what it has seen, and returns what is known in the
end. -/
def retainWith (t : OrderedMap α) (known : σ) (step : σ → String → α → Option β × σ) :
    OrderedMap β × σ :=
  (⟨(retainEntries step known t.entries).1,
      (keys_retainEntries_sublist step known t.entries).nodup t.distinct⟩,
    (retainEntries step known t.entries).2)

/-- Whether two maps have the same keys, with values that `same` accepts, in whatever order. -/
def agrees (same : α → α → Bool) (s t : OrderedMap α) : Bool :=
  s.size == t.size && s.entries.all fun (key, value) =>
    match t.get? key with
    | some other => same value other
    | none => false

end OrderedMap

end WindowGateway
