import WindowGateway.Proofs.Builtin.Field
import WindowGateway.Proofs.Text.Blank
import WindowGateway.Proofs.Text.Spelling

/-! Fields read as integers. An integer of 64 bits may stand as a number or as a text that spells
it, with blanks around, a plus sign or zeros in front, and is read alike. Whatever lies outside the
64 bits is refused, as a number and as a text. -/

namespace WindowGateway.Builtin

open Json (Document)
open Text (Blanks Numeral Spelling stripped)

/-- A text that is a spelling of the integer, but for the blanks around it. -/
inductive Spells : String → Int → Prop
  | mk {left cs right : List Char} {n : Int} (before : Blanks left) (spelling : Spelling cs n)
      (after : Blanks right) : Spells (String.ofList (left ++ cs ++ right)) n

/-- How a field is read as an integer. It is read just if it holds an integer of 64 bits, as a
number or in a text, and all spellings are read as the number is. -/
structure ReadsAlike (field : String) : Prop where
  reads : ∀ item n, integerField item field = .ok n ↔
    ∃ v, item.field? field = some v ∧ Denotes v n ∧ IsInt64 n
  fails : ∀ item fault, integerField item field = .error fault ↔ LacksInteger item field fault
  spelled : ∀ item v s, item.field? field = some v → v.value = .string s →
    ∀ n, integerField item field = .ok n ↔ Spells s n ∧ IsInt64 n
  alike : ∀ n h s v w, IsInt64 n → v.value = .number (.integer n h) → w.value = .string s →
    Spells s n → ∀ item other, item.field? field = some v → other.field? field = some w →
      integerField item field = .ok n ∧ integerField other field = .ok n
  beyond : ∀ item v n, item.field? field = some v → Denotes v n → ¬IsInt64 n →
    integerField item field = .error (.notInteger field v)

theorem spells_iff {s : String} {n : Int} : Spells s n ↔ Numeral (stripped s.toList) n := by
  constructor
  · rintro ⟨hleft, hspelling, hright⟩
    have hnumeral := Text.numeral_iff_spelling.mpr hspelling
    rw [String.toList_ofList, Text.stripped_around hleft hright hnumeral.not_isBlank]
    exact hnumeral
  · intro h
    obtain ⟨left, right, hs, hleft, hright⟩ := Text.exists_blanks_around s.toList
    have hspells := Spells.mk hleft (Text.numeral_iff_spelling.mp h) hright
    rw [← hs, String.ofList_toList] at hspells
    exact hspells

theorem denotes_number_iff {v : Document} {i n : Int}
    {h : -0x8000000000000000 ≤ i ∧ i < 0x10000000000000000}
    (hv : v.value = .number (.integer i h)) : Denotes v n ↔ i = n := by
  constructor
  · intro hn
    cases hn with
    | number hw =>
      rw [hv] at hw
      simpa using hw
    | text hw =>
      rw [hv] at hw
      cases hw
  · rintro rfl
    exact .number hv

theorem denotes_string_iff {v : Document} {s : String} {n : Int} (hv : v.value = .string s) :
    Denotes v n ↔ Spells s n := by
  rw [spells_iff]
  constructor
  · intro hn
    cases hn with
    | number hw =>
      rw [hv] at hw
      cases hw
    | text hw hnumeral =>
      rw [hv] at hw
      cases hw
      exact hnumeral
  · exact fun hnumeral => .text hv hnumeral

/-- A document denotes one integer at most, in the range of 64 bits or not. -/
theorem Denotes.eq {v : Document} {n m : Int} (hn : Denotes v n) (hm : Denotes v m) : n = m := by
  cases hn with
  | number hv => exact (denotes_number_iff hv).mp hm
  | text hv hnumeral =>
    exact hnumeral.unique (spells_iff.mp ((denotes_string_iff hv).mp hm))

theorem integerField_readsAlike (field : String) : ReadsAlike field where
  reads _ _ := integerField_eq_ok_iff
  fails _ _ := integerField_eq_error_iff
  spelled item v s hfield hv n := by
    rw [integerField_eq_ok_iff, hfield]
    simp only [Option.some.injEq, exists_eq_left', denotes_string_iff hv]
  alike n h s v w hn hv hw hspells item other hitem hother :=
    ⟨integerField_eq_ok_iff.mpr ⟨v, hitem, .number hv, hn⟩,
      integerField_eq_ok_iff.mpr ⟨w, hother, (denotes_string_iff hw).mpr hspells, hn⟩⟩
  beyond item v n hfield hdenotes hn := by
    refine integerField_eq_error_iff.mpr (.notInteger hfield fun m hm hrange => hn ?_)
    rw [hdenotes.eq hm]
    exact hrange

theorem integerField_readsAlike_padded :
    let item v := Document.ofMembers (OrderedMap.empty.insert "score" v)
    let number := Document.ofNumber (.integer (-7) (by decide))
    let text := Document.ofString "\u3000-007\n"
    let above := Document.ofNumber (.integer 0x8000000000000000 (by decide))
    integerField (item number) "score" = .ok (-7) ∧ integerField (item text) "score" = .ok (-7) ∧
      integerField (item above) "score" = .error (.notInteger "score" above) := by
  intro item number text above
  have hleft : Blanks ['\u3000'] := List.forall_mem_singleton.mpr (by decide)
  have hright : Blanks ['\n'] := List.forall_mem_singleton.mpr (by decide)
  have hspells : Spells "\u3000-007\n" (-7) := Spells.mk hleft (.minus 2 7) hright
  have halike := (integerField_readsAlike "score").alike (-7) (by decide) "\u3000-007\n" number text
    (by decide) rfl rfl hspells (item number) (item text) rfl rfl
  exact ⟨halike.1, halike.2,
    (integerField_readsAlike "score").beyond (item above) above 0x8000000000000000 rfl (.number rfl)
      (by decide)⟩

end WindowGateway.Builtin
