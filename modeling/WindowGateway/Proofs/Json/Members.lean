import WindowGateway.Json.Value
import WindowGateway.Proofs.OrderedMap

/-! Objects by the list of their members: what it means for the list to look a member up and to set
one. -/

namespace WindowGateway

namespace Json.Document

variable {d : Document} {members : List (String × Value)}

theorem members?_of_object (h : d.value = .object members) :
    ∃ m : OrderedMap Document, d.members? = some m ∧
      (m.entries.map fun e => (e.1, e.2.value)) = members := by
  obtain ⟨v, hv⟩ := d
  obtain rfl : v = .object members := h
  refine ⟨_, rfl, ?_⟩
  simp [List.map_pmap]

theorem object_of_members? {m : OrderedMap Document} (h : d.members? = some m) :
    d.value = .object (m.entries.map fun e => (e.1, e.2.value)) := by
  cases hvalue : d.value with
  | object members =>
    obtain ⟨m', hm', rfl⟩ := members?_of_object hvalue
    obtain rfl : m' = m := Option.some.inj (hm'.symm.trans h)
    rfl
  | null | bool _ | number _ | string _ | array _ =>
    obtain ⟨v, hv⟩ := d
    obtain rfl := hvalue
    cases h

theorem field?_of_object (h : d.value = .object members) (name : String) :
    (d.field? name).map value = members.lookup name := by
  obtain ⟨m, hm, rfl⟩ := members?_of_object h
  rw [field?, hm, Option.bind_some, OrderedMap.get?, lookup_map_snd]

theorem distinct_of_object (h : d.value = .object members) : (members.map Prod.fst).Nodup := by
  have hd := d.distinct
  rw [h, Value.Distinct] at hd
  exact hd.1

theorem field?_of_mem (h : d.value = .object members) {name : String} {v : Document}
    (hmem : (name, v.value) ∈ members) : d.field? name = some v := by
  have hlookup : members.lookup name = some v.value := lookup_of_mem (distinct_of_object h) hmem
  rw [← field?_of_object h] at hlookup
  obtain ⟨w, hw, hvalue⟩ := Option.map_eq_some_iff.mp hlookup
  rw [hw, Document.ext hvalue]

/-- Only an object has a field, and the field is among its members. -/
theorem object_of_field? {name : String} {v : Document} (h : d.field? name = some v) :
    ∃ front back, d.value = .object (front ++ (name, v.value) :: back) := by
  obtain ⟨m, hm, hget⟩ := Option.bind_eq_some_iff.mp h
  obtain ⟨front, back, hentries⟩ := List.append_of_mem (OrderedMap.mem_entries_iff.mpr hget)
  have hvalue := object_of_members? hm
  rw [hentries, List.map_append, List.map_cons] at hvalue
  exact ⟨_, _, hvalue⟩

theorem field?_of_not_mem (h : d.value = .object members) {name : String}
    (hnew : name ∉ members.map Prod.fst) : d.field? name = none := by
  have hlookup : members.lookup name = none :=
    List.lookup_eq_none_iff.mpr fun e he =>
      bne_iff_ne.mpr fun heq => hnew (heq ▸ List.mem_map_of_mem he)
  rw [← field?_of_object h] at hlookup
  exact Option.map_eq_none_iff.mp hlookup

/-- Setting a member of an object succeeds, and replaces the member or adds it at the end. -/
theorem setField?_of_object (h : d.value = .object members) (name : String) (v : Document) :
    ∃ d', d.setField? name v = some d' ∧ d'.value = .object (setEntry name v.value members) := by
  obtain ⟨m, hm, rfl⟩ := members?_of_object h
  refine ⟨ofMembers (m.insert name v), ?_, ?_⟩
  · rw [setField?, h, hm]
    rfl
  · exact congrArg Value.object (setEntry_map_snd value name v m.entries)

/-- Setting a member that an object has leaves the member in its place. -/
theorem setField?_of_split {front back : List (String × Value)} {name : String} {old : Value}
    (h : d.value = .object (front ++ (name, old) :: back)) (v : Document) :
    ∃ d', d.setField? name v = some d' ∧ d'.value = .object (front ++ (name, v.value) :: back) := by
  obtain ⟨d', hset, hvalue⟩ := setField?_of_object h name v
  rw [setEntry_of_split (distinct_of_object h)] at hvalue
  exact ⟨d', hset, hvalue⟩

end Json.Document

end WindowGateway
