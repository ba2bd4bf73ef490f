import WindowGateway.Fold
import WindowGateway.Proofs.Json.Text

/-! Items. A gateway looks at the bytes of an item as text first and then reads the text; what that
comes to is said of the bytes themselves. -/

namespace WindowGateway

open Json (Document)

/-- The item is UTF-8, and the text of the document. -/
structure ItemHolds (bytes : List UInt8) (d : Document) : Prop where
  utf8 : ∃ cs, Text.Utf8.decode bytes = .ok cs
  text : Document.parse bytes = .ok d

/-- Why an item holds no document. -/
inductive Spoiled (bytes : List UInt8) : ItemFault → Prop
  | utf8 {fault : Text.Utf8Fault} (decoded : Text.Utf8.decode bytes = .error fault) :
    Spoiled bytes (.utf8 fault)
  | json {cs : List Char} {error : Json.ParseError} (decoded : Text.Utf8.decode bytes = .ok cs)
      (parsed : Document.parse bytes = .error error) :
    Spoiled bytes (.json error)

/-- An item holds a document, or there is a reason why it does not. -/
theorem holds_or_spoiled (bytes : List UInt8) :
    (∃ d, ItemHolds bytes d) ∨ ∃ fault, Spoiled bytes fault := by
  cases hcs : Text.Utf8.decode bytes with
  | error fault => exact .inr ⟨_, .utf8 hcs⟩
  | ok cs =>
    cases hd : Document.parse bytes with
    | error error => exact .inr ⟨_, .json hcs hd⟩
    | ok d => exact .inl ⟨d, ⟨cs, hcs⟩, hd⟩

section Item

variable {index : Nat} {bytes : List UInt8} {d : Document}

theorem decodeItem_of_utf8 {cs : List Char} (h : Text.Utf8.decode bytes = .ok cs) :
    decodeItem index bytes =
      (Document.parse bytes).mapError fun error => .malformedItem index (.json error) := by
  have htext : Text.ofBytes bytes = .ok (String.ofList cs) := by
    rw [Text.ofBytes, h]
    rfl
  simp only [decodeItem, htext, Document.parseText_eq, ← Text.ofBytes_eq_ok_iff.mp htext]
  cases Document.parse bytes <;> rfl

theorem decodeItem_of_holds (h : ItemHolds bytes d) : decodeItem index bytes = .ok d := by
  obtain ⟨⟨cs, hcs⟩, hd⟩ := h
  rw [decodeItem_of_utf8 hcs, hd]
  rfl

theorem decodeItem_of_spoiled {fault : ItemFault} (h : Spoiled bytes fault) :
    decodeItem index bytes = .error (.malformedItem index fault) := by
  cases h with
  | utf8 hcs => simp only [decodeItem, Text.ofBytes, hcs, Except.map]
  | json hcs hd =>
    rw [decodeItem_of_utf8 hcs, hd]
    rfl

theorem decodeItem_eq_ok_iff : decodeItem index bytes = .ok d ↔ ItemHolds bytes d := by
  refine ⟨fun h => ?_, decodeItem_of_holds⟩
  rcases holds_or_spoiled bytes with ⟨e, he⟩ | ⟨fault, hfault⟩
  · rw [decodeItem_of_holds he] at h
    rwa [← Except.ok.inj h]
  · rw [decodeItem_of_spoiled hfault] at h
    cases h

theorem decodeItem_eq_error_iff {e : CallError} :
    decodeItem index bytes = .error e ↔
      ∃ fault, Spoiled bytes fault ∧ e = .malformedItem index fault := by
  constructor
  · intro h
    rcases holds_or_spoiled bytes with ⟨d, hd⟩ | ⟨fault, hfault⟩
    · rw [decodeItem_of_holds hd] at h
      cases h
    · rw [decodeItem_of_spoiled hfault] at h
      exact ⟨fault, hfault, (Except.error.inj h).symm⟩
  · rintro ⟨fault, hfault, rfl⟩
    exact decodeItem_of_spoiled hfault

theorem ItemHolds.unique {e : Document} (hd : ItemHolds bytes d) (he : ItemHolds bytes e) : d = e :=
  Except.ok.inj (hd.text.symm.trans he.text)

end Item

end WindowGateway
