import WindowGateway.Builtin.Field
import WindowGateway.Proofs.Item
import WindowGateway.Proofs.Text.Integer

/-! What the documents of items say: the keys and the integers that their fields give. -/

namespace WindowGateway

open Json (Document)

namespace Builtin

/-! ### Keys -/

/-- The text of a key: a text as it is, and a number as its JSON text. -/
inductive KeyText : Document → String → Prop
  | text {d : Document} {s : String} (value : d.value = .string s) : KeyText d s
  | number {d : Document} {n : Json.Number} (value : d.value = .number n) : KeyText d d.render

def HasKey (item : Document) (field key : String) : Prop :=
  ∃ v, item.field? field = some v ∧ KeyText v key

theorem render_of_number {d : Document} {n : Json.Number} (h : d.value = .number n) :
    d.render = String.ofList n.chars := by
  rw [Document.render, h, Json.Value.chars]

theorem keyField_eq_ok_iff {item : Document} {field key : String} :
    keyField item field = .ok key ↔ HasKey item field key := by
  rw [keyField, HasKey]
  cases item.field? field with
  | none => simp
  | some v =>
    simp only [Option.some.injEq, exists_eq_left']
    constructor
    · intro h
      split at h
      · next s hs =>
        obtain rfl : s = key := Except.ok.inj h
        exact .text hs
      · next n hn =>
        obtain rfl : String.ofList n.chars = key := Except.ok.inj h
        rw [← render_of_number hn]
        exact .number hn
      · cases h
    · intro h
      cases h with
      | text hs => rw [hs]
      | number hn =>
        rw [render_of_number hn]
        simp only [hn]

/-- Every fault but an overflow has a text that begins with a letter. -/
theorem isAlpha_head?_message (fault : FieldFault) :
    fault.message.toList.head?.any Char.isAlpha =
      match fault with
      | .overflow _ => false
      | .missing _ | .notInteger _ _ | .notKey _ _ => true := by
  cases fault with
  | missing field =>
    show ("missing field '" ++ field ++ "'").toList.head?.any Char.isAlpha = true
    rw [String.append_assoc, String.toList_append, List.head?_append]
    rfl
  | notInteger field value =>
    show ("field '" ++ field ++ "' is not an integer: " ++ value.render).toList.head?.any
      Char.isAlpha = true
    rw [String.append_assoc, String.append_assoc, String.toList_append, List.head?_append]
    rfl
  | notKey field value =>
    show ("field '" ++ field ++ "' cannot be used as a key: " ++ value.render).toList.head?.any
      Char.isAlpha = true
    rw [String.append_assoc, String.append_assoc, String.toList_append, List.head?_append]
    rfl
  | overflow field =>
    show ("'" ++ field ++ "' overflowed").toList.head?.any Char.isAlpha = false
    rw [String.append_assoc, String.toList_append, List.head?_append]
    rfl

/-- A document that has no key is told apart from an overflow. -/
theorem overflow_ne_of_keyField {item : Document} {field other : String} {fault : FieldFault}
    (h : keyField item field = .error fault) :
    (FieldFault.overflow other).message ≠ fault.message := by
  intro heq
  have hoverflow := isAlpha_head?_message (.overflow other)
  rw [heq, isAlpha_head?_message fault] at hoverflow
  rw [keyField] at h
  split at h
  · obtain rfl := Except.error.inj h
    cases hoverflow
  · split at h
    · cases h
    · cases h
    · obtain rfl := Except.error.inj h
      cases hoverflow

theorem HasKey.unique {item : Document} {field key other : String} (h : HasKey item field key)
    (ho : HasKey item field other) : key = other :=
  Except.ok.inj ((keyField_eq_ok_iff.mpr h).symm.trans (keyField_eq_ok_iff.mpr ho))

/-! ### Integers -/

/-- The integers that 64 bits with a sign can hold. -/
def IsInt64 (n : Int) : Prop := -0x8000000000000000 ≤ n ∧ n < 0x8000000000000000

instance (n : Int) : Decidable (IsInt64 n) := inferInstanceAs (Decidable (_ ∧ _))

/-- The integer that a document gives: a number that is held as an integer (which `1.0` and `-0` are
not), or a text that is a numeral but for the blanks around it. -/
inductive Denotes : Document → Int → Prop
  | number {d : Document} {n : Int}
      {h : -0x8000000000000000 ≤ n ∧ n < 0x10000000000000000}
      (value : d.value = .number (.integer n h)) : Denotes d n
  | text {d : Document} {s : String} {n : Int} (value : d.value = .string s)
      (numeral : Text.Numeral (Text.stripped s.toList) n) : Denotes d n

theorem integer?_eq_some_iff {d : Document} {n : Int} :
    integer? d = some n ↔ Denotes d n ∧ IsInt64 n := by
  rw [integer?]
  split
  · next m hm =>
    cases m with
    | integer value h =>
      rw [Json.Number.int64?]
      constructor
      · intro hn
        split at hn
        · next hlt =>
          obtain rfl : value = n := Option.some.inj hn
          exact ⟨.number hm, h.1, hlt⟩
        · cases hn
      · rintro ⟨hd, hn⟩
        cases hd with
        | number hv =>
          obtain rfl : value = n := by
            rw [hm] at hv
            simpa using hv
          rw [if_pos hn.2]
        | text hv =>
          rw [hm] at hv
          cases hv
    | real negative magnitude =>
      constructor
      · intro hn
        cases hn
      · rintro ⟨hd, _⟩
        cases hd with
        | number hv =>
          rw [hm] at hv
          cases hv
        | text hv =>
          rw [hm] at hv
          cases hv
  · next s hs =>
    rw [toOption_eq_some_iff, Text.readInt64_eq_ok_iff, Text.trim, String.toList_ofList]
    constructor
    · rintro ⟨hn, hrange⟩
      exact ⟨.text hs hn, hrange⟩
    · rintro ⟨hd, hrange⟩
      cases hd with
      | number hv =>
        rw [hs] at hv
        cases hv
      | text hv hn =>
        rw [hs] at hv
        cases hv
        exact ⟨hn, hrange⟩
  · next hnumber hstring =>
    constructor
    · intro hn
      cases hn
    · rintro ⟨hd, _⟩
      cases hd with
      | number hv => exact absurd hv (hnumber _)
      | text hv => exact absurd hv (hstring _)

theorem Denotes.unique {d : Document} {n m : Int} (h : Denotes d n) (hn : IsInt64 n)
    (ho : Denotes d m) (hm : IsInt64 m) : n = m :=
  Option.some.inj
    ((integer?_eq_some_iff.mpr ⟨h, hn⟩).symm.trans (integer?_eq_some_iff.mpr ⟨ho, hm⟩))

theorem integerField_eq_ok_iff {item : Document} {field : String} {n : Int} :
    integerField item field = .ok n ↔
      ∃ v, item.field? field = some v ∧ Denotes v n ∧ IsInt64 n := by
  rw [integerField]
  cases item.field? field with
  | none => simp
  | some v =>
    simp only [Option.some.injEq, exists_eq_left', ← integer?_eq_some_iff]
    cases integer? v <;> simp

/-- Why a document gives no integer of 64 bits in a field: it has no such field, or one that holds
something else. -/
inductive LacksInteger (item : Document) (field : String) : FieldFault → Prop
  | missing (absent : item.field? field = none) : LacksInteger item field (.missing field)
  | notInteger {v : Document} (present : item.field? field = some v)
      (other : ∀ n, Denotes v n → ¬IsInt64 n) : LacksInteger item field (.notInteger field v)

theorem integerField_eq_error_iff {item : Document} {field : String} {fault : FieldFault} :
    integerField item field = .error fault ↔ LacksInteger item field fault := by
  have hinteger : ∀ v, integer? v = none ↔ ∀ n, Denotes v n → ¬IsInt64 n := fun v => by
    simp only [Option.eq_none_iff_forall_ne_some, ne_eq, integer?_eq_some_iff, not_and]
  unfold integerField
  constructor
  · intro h
    split at h
    · next hnone =>
      obtain rfl := Except.error.inj h
      exact .missing hnone
    · next v hsome =>
      split at h
      · cases h
      · next hother =>
        obtain rfl := Except.error.inj h
        exact .notInteger hsome ((hinteger v).mp hother)
  · intro h
    cases h with
    | missing hnone => simp only [hnone]
    | notInteger hsome hother => simp only [hsome, (hinteger _).mpr hother]

end Builtin

end WindowGateway
