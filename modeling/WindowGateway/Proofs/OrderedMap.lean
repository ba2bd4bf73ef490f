import Mathlib.Data.List.Forall2
import WindowGateway.OrderedMap

/-! Ordered maps by their entries: what looking up, inserting and reading out mean for the list of
keys and the list of values. -/

namespace WindowGateway

variable {α β : Type}

theorem lookup_map_snd (f : α → β) (key : String) (es : List (String × α)) :
    (es.map fun e => (e.1, f e.2)).lookup key = (es.lookup key).map f := by
  induction es with
  | nil => rfl
  | cons e es ih =>
    obtain ⟨k, v⟩ := e
    rw [List.map_cons, List.lookup_cons, List.lookup_cons]
    cases key == k
    · exact ih
    · rfl

theorem setEntry_map_snd (f : α → β) (key : String) (value : α) (es : List (String × α)) :
    (setEntry key value es).map (fun e => (e.1, f e.2)) =
      setEntry key (f value) (es.map fun e => (e.1, f e.2)) := by
  induction es with
  | nil => rfl
  | cons e es ih =>
    rw [setEntry, List.map_cons, setEntry]
    split
    · rfl
    · rw [List.map_cons, ih]

theorem setEntry_append_of_not_mem {key : String} {front : List (String × α)}
    (h : key ∉ front.map Prod.fst) (value : α) (es : List (String × α)) :
    setEntry key value (front ++ es) = front ++ setEntry key value es := by
  induction front with
  | nil => rfl
  | cons e front ih =>
    rw [List.map_cons, List.mem_cons, not_or] at h
    have hne : e.1 ≠ key := fun he => h.1 he.symm
    rw [List.cons_append, setEntry, if_neg hne, ih h.2, List.cons_append]

/-- A key that is there keeps its place. -/
theorem setEntry_of_split {key : String} {old : α} {front back : List (String × α)}
    (h : ((front ++ (key, old) :: back).map Prod.fst).Nodup) (value : α) :
    setEntry key value (front ++ (key, old) :: back) = front ++ (key, value) :: back := by
  rw [setEntry_append_of_not_mem (not_mem_of_nodup_append h), setEntry, if_pos rfl]

/-- Inserting entries with new keys appends them. -/
theorem foldl_insert_entries {m : OrderedMap α} {es : List (String × α)}
    (h : ((m.entries ++ es).map Prod.fst).Nodup) :
    (es.foldl (fun t e => t.insert e.1 e.2) m).entries = m.entries ++ es := by
  induction es generalizing m with
  | nil => exact (List.append_nil _).symm
  | cons e es ih =>
    have hentries : (m.insert e.1 e.2).entries = m.entries ++ [e] :=
      setEntry_of_not_mem (not_mem_of_nodup_append h)
    have hrest : (((m.insert e.1 e.2).entries ++ es).map Prod.fst).Nodup := by
      rw [hentries, List.append_assoc]
      exact h
    rw [List.foldl_cons, ih hrest, hentries, List.append_assoc]
    rfl

/-- An entry whose key comes once is the one that is looked up. -/
theorem lookup_of_mem {e : String × α} {es : List (String × α)} (hd : (es.map Prod.fst).Nodup)
    (he : e ∈ es) : es.lookup e.1 = some e.2 := by
  induction es with
  | nil => cases he
  | cons f es ih =>
    rw [List.map_cons, List.nodup_cons] at hd
    rcases List.mem_cons.mp he with rfl | he
    · exact List.lookup_cons_self
    · have hne : (e.1 == f.1) = false :=
        beq_eq_false_iff_ne.mpr fun heq => hd.1 (heq ▸ List.mem_map_of_mem he)
      rw [List.lookup_cons, hne]
      exact ih hd.2 he

namespace OrderedMap

variable {t : OrderedMap α} {key : String} {value : α}

theorem keys_insert :
    (t.insert key value).keys = if key ∈ t.keys then t.keys else t.keys ++ [key] :=
  keys_setEntry key value t.entries

theorem insert_entries_of_split {old : α} {front back : List (String × α)}
    (h : t.entries = front ++ (key, old) :: back) (value : α) :
    (t.insert key value).entries = front ++ (key, value) :: back := by
  have hdistinct := t.distinct
  rw [h] at hdistinct
  show setEntry key value t.entries = _
  rw [h, setEntry_of_split hdistinct]

theorem get?_eq_none_iff : t.get? key = none ↔ key ∉ t.keys := by
  rw [get?, List.lookup_eq_none_iff, keys, List.mem_map]
  constructor
  · rintro h ⟨e, he, rfl⟩
    exact bne_iff_ne.mp (h e he) rfl
  · exact fun h e he => bne_iff_ne.mpr fun heq => h ⟨e, he, heq.symm⟩

theorem mem_keys_of_get? (h : t.get? key = some value) : key ∈ t.keys := by
  by_contra hmem
  rw [get?_eq_none_iff.mpr hmem] at h
  cases h

theorem mem_entries_iff : (key, value) ∈ t.entries ↔ t.get? key = some value := by
  constructor
  · exact lookup_of_mem t.distinct
  · intro h
    obtain ⟨e, he, rfl⟩ := List.mem_map.mp (mem_keys_of_get? h)
    obtain rfl : e.2 = value := Option.some.inj ((lookup_of_mem t.distinct he).symm.trans h)
    exact he

theorem get?_retain (t : OrderedMap α) (keep : String → α → Option β) (key : String) :
    (t.retain keep).get? key = (t.get? key).bind (keep key) := by
  ext record
  rw [← mem_entries_iff, retain, List.mem_filterMap, Option.bind_eq_some_iff]
  constructor
  · rintro ⟨⟨k, r⟩, he, hkept⟩
    obtain ⟨r', hr', heq⟩ := Option.map_eq_some_iff.mp hkept
    obtain ⟨rfl, rfl⟩ := Prod.mk.inj heq
    exact ⟨r, mem_entries_iff.mp he, hr'⟩
  · rintro ⟨r, hr, hkept⟩
    exact ⟨(key, r), mem_entries_iff.mpr hr, by simp only [hkept, Option.map_some]⟩

/-- Keeping entries by a test filters them. -/
theorem entries_retain (t : OrderedMap α) (p : α → Bool) :
    (t.retain fun _ v => if p v then some v else none).entries = t.entries.filter (p ·.2) := by
  rw [retain, ← List.filterMap_eq_filter]
  refine List.filterMap_congr fun e _ => ?_
  by_cases he : p e.2 = true <;> simp [he, Option.guard]

/-- Only the last of two insertions of a key matters. -/
theorem insert_insert (t : OrderedMap α) (key : String) (first last : α) :
    (t.insert key first).insert key last = t.insert key last := by
  refine OrderedMap.ext ?_
  show setEntry key last (setEntry key first t.entries) = setEntry key last t.entries
  induction t.entries with
  | nil => simp only [setEntry, if_pos]
  | cons e es ih =>
    by_cases he : e.1 = key
    · simp only [setEntry, if_pos he, if_pos]
    · simp only [setEntry, if_neg he, ih]

/-- Erasing drops the one entry, and leaves the others as they are. -/
theorem erase_eq_retain (t : OrderedMap α) (key : String) :
    t.erase key = t.retain fun other record => if other = key then none else some record := by
  refine OrderedMap.ext ?_
  show t.entries.filter (fun e => e.1 ≠ key) = t.entries.filterMap _
  rw [← List.filterMap_eq_filter]
  refine List.filterMap_congr fun e _ => ?_
  by_cases he : e.1 = key <;> simp [he, Option.guard]

/-- Where the entries stand plays no part in looking up. -/
theorem get?_of_perm {s t : OrderedMap α} (h : s.entries.Perm t.entries) (key : String) :
    s.get? key = t.get? key := by
  cases hs : s.get? key with
  | none =>
    rw [get?_eq_none_iff, keys] at hs
    exact (get?_eq_none_iff.mpr fun hkey => hs ((h.map Prod.fst).mem_iff.mpr hkey)).symm
  | some value =>
    obtain ⟨e, he, rfl⟩ := List.mem_map.mp (mem_keys_of_get? hs)
    have hvalue : e.2 = value := Option.some.inj ((lookup_of_mem s.distinct he).symm.trans hs)
    rw [get?, lookup_of_mem t.distinct (h.mem_iff.mp he), hvalue]

theorem ofList_entries (t : OrderedMap α) : ofList t.entries = t :=
  OrderedMap.ext (foldl_insert_entries (m := empty) t.distinct)

theorem getOrInsert_of_some (h : t.get? key = some value) (new : α) :
    t.getOrInsert key new = (value, t) := by
  rw [getOrInsert, getOrInsertM, h]
  rfl

theorem getOrInsert_of_none (h : t.get? key = none) (new : α) :
    t.getOrInsert key new = (new, t.insert key new) := by
  rw [getOrInsert, getOrInsertM, h]
  rfl

/-- The values stand in the order of their keys. -/
theorem forall₂_keys_values {R : String → α → Prop}
    (h : ∀ key value, t.get? key = some value → R key value) :
    List.Forall₂ R t.keys t.values := by
  rw [keys, values, List.forall₂_map_left_iff, List.forall₂_map_right_iff, List.forall₂_same]
  exact fun e he => h e.1 e.2 (lookup_of_mem t.distinct he)

end OrderedMap

end WindowGateway
