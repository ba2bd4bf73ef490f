import WindowGateway.Decimal.Binary64
import WindowGateway.OrderedMap

/-! JSON documents. A `Value` is a tree; a `Document` is a value no object of which has the same key
twice, which is what reading yields and what the rest of the library handles. -/

namespace WindowGateway.Json

/-- A number: an integer of 64 bits, signed or not, or a finite floating-point number. -/
inductive Number
  | integer (value : Int) (inRange : -0x8000000000000000 ≤ value ∧ value < 0x10000000000000000)
  | real (negative : Bool) (magnitude : Binary64)
  deriving DecidableEq

namespace Number

def ofInt? (i : Int) : Option Number :=
  if h : -0x8000000000000000 ≤ i ∧ i < 0x10000000000000000 then some (integer i h) else none

/-- The value, if the number is an integer of 64 bits with a sign. -/
def int64? : Number → Option Int
  | integer value _ => if value < 0x8000000000000000 then some value else none
  | real _ _ => none

/-- The value, if the number is an integer that is not negative. -/
def natural? : Number → Option Nat
  | integer value _ => if 0 ≤ value then some value.toNat else none
  | real _ _ => none

/-- Whether two numbers are the same: integers differ from floating-point numbers, and the two
zeros of the latter are one. -/
def same : Number → Number → Bool
  | integer a _, integer b _ => a == b
  | real s a, real t b => a == b && (s == t || a.isZero)
  | _, _ => false

end Number

inductive Value
  | null
  | bool (b : Bool)
  | number (n : Number)
  | string (s : String)
  | array (items : List Value)
  | object (members : List (String × Value))

instance : Inhabited Value := ⟨.null⟩

namespace Value

mutual

/-- No object of the value has the same key twice, at any depth. -/
def Distinct : Value → Prop
  | array items => AllDistinct items
  | object members => (members.map Prod.fst).Nodup ∧ MembersDistinct members
  | null | bool _ | number _ | string _ => True

def AllDistinct : List Value → Prop
  | [] => True
  | v :: vs => v.Distinct ∧ AllDistinct vs

def MembersDistinct : List (String × Value) → Prop
  | [] => True
  | (_, v) :: ms => v.Distinct ∧ MembersDistinct ms

end

theorem allDistinct_iff {items : List Value} :
    AllDistinct items ↔ ∀ v ∈ items, v.Distinct := by
  induction items with
  | nil => simp [AllDistinct]
  | cons v vs ih => simp [AllDistinct, ih]

theorem membersDistinct_iff {members : List (String × Value)} :
    MembersDistinct members ↔ ∀ m ∈ members, m.2.Distinct := by
  induction members with
  | nil => simp [MembersDistinct]
  | cons m ms ih => obtain ⟨k, v⟩ := m; simp [MembersDistinct, ih]

theorem distinct_array {items : List Value} (h : ∀ v ∈ items, v.Distinct) :
    (array items).Distinct := by
  rw [Distinct]; exact allDistinct_iff.mpr h

theorem distinct_object {members : List (String × Value)} (hk : (members.map Prod.fst).Nodup)
    (h : ∀ m ∈ members, m.2.Distinct) : (object members).Distinct := by
  rw [Distinct]; exact ⟨hk, membersDistinct_iff.mpr h⟩

mutual

/-- The nesting of a value: how many arrays and objects lie around its innermost part. -/
def depth : Value → Nat
  | array items => itemsDepth items + 1
  | object members => membersDepth members + 1
  | null | bool _ | number _ | string _ => 0

def itemsDepth : List Value → Nat
  | [] => 0
  | v :: vs => max v.depth (itemsDepth vs)

def membersDepth : List (String × Value) → Nat
  | [] => 0
  | (_, v) :: ms => max v.depth (membersDepth ms)

end

mutual

/-- Whether two values are the same, the members of an object in whatever order. -/
def same : Value → Value → Bool
  | null, null => true
  | bool a, bool b => a == b
  | number a, number b => a.same b
  | string a, string b => a == b
  | array as, array bs => sameItems as bs
  | object as, object bs => as.length == bs.length && sameMembers as bs
  | _, _ => false

def sameItems : List Value → List Value → Bool
  | [], [] => true
  | a :: as, b :: bs => a.same b && sameItems as bs
  | _, _ => false

/-- Whether every one of the first members has its like among the second. -/
def sameMembers : List (String × Value) → List (String × Value) → Bool
  | [], _ => true
  | (key, a) :: as, bs =>
    (match bs.lookup key with
      | some b => a.same b
      | none => false) && sameMembers as bs

end

end Value

/-- A JSON document. -/
@[ext] structure Document where
  value : Value
  distinct : value.Distinct

namespace Document

def null : Document := ⟨.null, by simp [Value.Distinct]⟩

def ofString (s : String) : Document := ⟨.string s, by simp [Value.Distinct]⟩

def ofNumber (n : Number) : Document := ⟨.number n, by simp [Value.Distinct]⟩

def ofInt? (i : Int) : Option Document := (Number.ofInt? i).map ofNumber

def ofOptionalString : Option String → Document
  | some s => ofString s
  | none => null

def ofItems (items : List Document) : Document :=
  ⟨.array (items.map value), Value.distinct_array fun v hv => by
    obtain ⟨d, _, rfl⟩ := List.mem_map.mp hv; exact d.distinct⟩

def ofMembers (members : OrderedMap Document) : Document :=
  ⟨.object (members.entries.map fun e => (e.1, e.2.value)),
    Value.distinct_object (by simpa [Function.comp_def] using members.distinct) fun m hm => by
      obtain ⟨e, _, rfl⟩ := List.mem_map.mp hm; exact e.2.distinct⟩

instance : Inhabited Document := ⟨null⟩

def string? (d : Document) : Option String :=
  match d.value with
  | .string s => some s
  | _ => none

def number? (d : Document) : Option Number :=
  match d.value with
  | .number n => some n
  | _ => none

def items? : Document → Option (List Document)
  | ⟨.array items, h⟩ =>
    have hd : ∀ v ∈ items, v.Distinct := by
      rw [Value.Distinct] at h; exact Value.allDistinct_iff.mp h
    some (items.pmap (fun v hv => ⟨v, hv⟩) hd)
  | _ => none

theorem map_fst_pmap_members {members : List (String × Value)}
    (h : ∀ m ∈ members, m.2.Distinct) :
    (members.pmap (fun m hm => (m.1, (⟨m.2, hm⟩ : Document))) h).map Prod.fst =
      members.map Prod.fst := by
  rw [List.map_pmap, List.pmap_eq_map]

def members? : Document → Option (OrderedMap Document)
  | ⟨.object members, h⟩ =>
    have hd : (members.map Prod.fst).Nodup ∧ ∀ m ∈ members, m.2.Distinct := by
      rw [Value.Distinct] at h; exact ⟨h.1, Value.membersDistinct_iff.mp h.2⟩
    some ⟨members.pmap (fun m hm => (m.1, ⟨m.2, hm⟩)) hd.2,
      (map_fst_pmap_members hd.2).symm ▸ hd.1⟩
  | _ => none

/-- The member `name`, if the document is an object that has it. -/
def field? (d : Document) (name : String) : Option Document :=
  d.members?.bind fun members => members.get? name

/-- The kind of value, as messages name it. -/
def kindName (d : Document) : String :=
  match d.value with
  | .null => "null"
  | .bool _ => "boolean"
  | .number _ => "number"
  | .string _ => "string"
  | .array _ => "array"
  | .object _ => "object"

/-- The document with `value` as its member `name`; null counts as the empty object, and no other
kind of value has members. -/
def setField? (d : Document) (name : String) (value : Document) : Option Document :=
  match d.value with
  | .null => some (ofMembers (OrderedMap.empty.insert name value))
  | _ => d.members?.map fun members => ofMembers (members.insert name value)

/-- Whether two documents are the same, the members of objects in whatever order. -/
def same (a b : Document) : Bool := a.value.same b.value

end Document

end WindowGateway.Json
