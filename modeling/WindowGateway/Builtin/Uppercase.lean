import WindowGateway.Hook
import WindowGateway.Text.Uppercase

/-! Documents in upper case: every string in a document is replaced by its upper case, and nothing
else, so that keys stay as they are. -/

namespace WindowGateway.Json

namespace Value

mutual

/-- The value with every string in it replaced. -/
def mapStrings (f : String → String) : Value → Value
  | string s => string (f s)
  | array items => array (mapItems f items)
  | object members => object (mapMembers f members)
  | null => null
  | bool b => bool b
  | number n => number n

def mapItems (f : String → String) : List Value → List Value
  | [] => []
  | v :: vs => v.mapStrings f :: mapItems f vs

def mapMembers (f : String → String) : List (String × Value) → List (String × Value)
  | [] => []
  | (key, v) :: ms => (key, v.mapStrings f) :: mapMembers f ms

end

theorem map_fst_mapMembers (f : String → String) (ms : List (String × Value)) :
    (mapMembers f ms).map Prod.fst = ms.map Prod.fst := by
  induction ms with
  | nil => rfl
  | cons m ms ih => obtain ⟨key, v⟩ := m; simp [mapMembers, ih]

mutual

theorem Distinct.mapStrings (f : String → String) :
    ∀ {v : Value}, v.Distinct → (v.mapStrings f).Distinct
  | null, h | bool _, h | number _, h | string _, h => by simp [Value.mapStrings, Value.Distinct]
  | array items, h => by
    rw [Value.Distinct] at h
    rw [Value.mapStrings, Value.Distinct]
    exact AllDistinct.mapItems f h
  | object members, h => by
    rw [Value.Distinct] at h
    rw [Value.mapStrings, Value.Distinct, map_fst_mapMembers]
    exact ⟨h.1, MembersDistinct.mapMembers f h.2⟩

theorem AllDistinct.mapItems (f : String → String) :
    ∀ {vs : List Value}, AllDistinct vs → AllDistinct (mapItems f vs)
  | [], _ => trivial
  | _ :: _, h => by
    rw [AllDistinct] at h
    rw [Value.mapItems, AllDistinct]
    exact ⟨h.1.mapStrings f, h.2.mapItems f⟩

theorem MembersDistinct.mapMembers (f : String → String) :
    ∀ {ms : List (String × Value)}, MembersDistinct ms → MembersDistinct (mapMembers f ms)
  | [], _ => trivial
  | (_, _) :: _, h => by
    rw [MembersDistinct] at h
    rw [Value.mapMembers, MembersDistinct]
    exact ⟨h.1.mapStrings f, h.2.mapMembers f⟩

end

end Value

def Document.mapStrings (f : String → String) (d : Document) : Document :=
  ⟨d.value.mapStrings f, d.distinct.mapStrings f⟩

end WindowGateway.Json

namespace WindowGateway.Builtin

def uppercaseMap : MapDocument := fun _ d => .ok (d.mapStrings Text.uppercase)

end WindowGateway.Builtin
