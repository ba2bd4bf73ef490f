import WindowGateway.Proofs.Wire.Varint
import WindowGateway.Wire.Collection

/-! The byte strings of collections, as a grammar: a sequence of fields, of which those with number
1 are items and all others, whole groups among them, carry nothing. The decoder accepts exactly
these byte strings, and yields the items that the grammar assigns to them. -/

namespace WindowGateway.Wire

/-- A reader that takes from the front of its input just what has the given form. -/
def Reads {ε α : Type} (read : List UInt8 → Except ε (α × List UInt8))
    (Form : List UInt8 → α → Prop) : Prop :=
  ∀ s a rest, read s = .ok (a, rest) ↔ ∃ front, s = front ++ rest ∧ Form front a

/-- The bytes of a key. -/
inductive KeyBytes : List UInt8 → Key → Prop
  | mk {bs : List UInt8} {n : Nat} {t : WireType} (number : VarintBytes 10 bs n)
      (fits : n < 0x100000000) (wireType : WireType.ofNat? (n % 8) = some t) (field : n / 8 ≠ 0) :
      KeyBytes bs ⟨n / 8, t⟩

/-- The bytes of a value with its length before it. -/
inductive DelimitedBytes : List UInt8 → List UInt8 → Prop
  | mk {size value : List UInt8} (length : VarintBytes 10 size value.length) :
      DelimitedBytes (size ++ value) value

/-- The bytes of a group after its opening key: fields with values of the form `Value`, and then the
key that closes it. -/
inductive GroupBytes (Value : Key → List UInt8 → Prop) (field : Nat) : List UInt8 → Prop
  | close {bs : List UInt8} (key : KeyBytes bs ⟨field, .endGroup⟩) : GroupBytes Value field bs
  | more {key : Key} {front value rest : List UInt8} (isKey : KeyBytes front key)
      (inside : key.wireType ≠ .endGroup) (isValue : Value key value)
      (tail : GroupBytes Value field rest) : GroupBytes Value field (front ++ (value ++ rest))

/-- The bytes of the value of a field that nobody knows, with fewer than `levels` groups around each
other. -/
def UnknownBytes : Nat → Key → List UInt8 → Prop
  | 0, _, _ => False
  | levels + 1, key, bs =>
    match key.wireType with
    | .varint => ∃ n, VarintBytes 10 bs n
    | .fixed64 => bs.length = 8
    | .fixed32 => bs.length = 4
    | .lengthDelimited => ∃ value, DelimitedBytes bs value
    | .startGroup => GroupBytes (UnknownBytes levels) key.field bs
    | .endGroup => False

/-- The bytes of a collection with the given items. -/
inductive CollectionBytes : List UInt8 → List (List UInt8) → Prop
  | nil : CollectionBytes [] []
  | item {front bs item rest : List UInt8} {items : List (List UInt8)}
      (key : KeyBytes front ⟨1, .lengthDelimited⟩) (value : DelimitedBytes bs item)
      (tail : CollectionBytes rest items) :
      CollectionBytes (front ++ (bs ++ rest)) (item :: items)
  | unknown {key : Key} {front bs rest : List UInt8} {items : List (List UInt8)}
      (isKey : KeyBytes front key) (other : key.field ≠ 1) (value : UnknownBytes maxLevels key bs)
      (tail : CollectionBytes rest items) : CollectionBytes (front ++ (bs ++ rest)) items

/-! ### Keys and values -/

theorem reads_varint : Reads readVarint (VarintBytes 10) := by
  intro s n rest
  rw [readVarint]
  constructor
  · intro h
    cases hr : readVarint? s with
    | none => simp [hr] at h
    | some r =>
      obtain rfl : r = (n, rest) := by simpa [hr] using h
      exact varintBytes_of_read hr
  · rintro ⟨front, rfl, hf⟩
    rw [readVarint?, hf.read rest]

theorem reads_key : Reads readKey KeyBytes := by
  intro s key rest
  rw [readKey]
  constructor
  · intro h
    cases hr : readVarint s with
    | error f => simp [hr] at h
    | ok r =>
      obtain ⟨n, t⟩ := r
      obtain ⟨front, rfl, hf⟩ := (reads_varint s n t).mp hr
      simp only [hr] at h
      by_cases hn : 0x100000000 ≤ n
      · simp [hn] at h
      rw [if_neg hn] at h
      cases hw : WireType.ofNat? (n % 8) with
      | none => simp [hw] at h
      | some w =>
        by_cases hz : n / 8 = 0
        · simp [hw, hz] at h
        obtain ⟨rfl, rfl⟩ : (⟨n / 8, w⟩ : Key) = key ∧ t = rest := by simpa [hw, hz] using h
        exact ⟨front, rfl, .mk hf (Nat.lt_of_not_le hn) hw hz⟩
  · rintro ⟨front, rfl, ⟨hf, hn, hw, hz⟩⟩
    simp [(reads_varint _ _ _).mpr ⟨front, rfl, hf⟩, Nat.not_le.mpr hn, hw, hz]

theorem takeBytes_eq_ok_iff {n : Nat} {s front rest : List UInt8} :
    takeBytes n s = .ok (front, rest) ↔ s = front ++ rest ∧ front.length = n := by
  simp only [takeBytes, List.splitAt_eq]
  constructor
  · intro h
    by_cases hl : (s.take n).length = n
    · obtain ⟨rfl, rfl⟩ : s.take n = front ∧ s.drop n = rest := by simpa only [hl, if_true,
        Except.ok.injEq, Prod.mk.injEq] using h
      exact ⟨(List.take_append_drop n s).symm, hl⟩
    · simp only [hl, if_false, reduceCtorEq] at h
  · rintro ⟨rfl, rfl⟩
    simp

theorem reads_bytes : Reads readBytes DelimitedBytes := by
  intro s value rest
  rw [readBytes]
  constructor
  · intro h
    cases hr : readVarint s with
    | error f => simp [hr] at h
    | ok r =>
      obtain ⟨n, t⟩ := r
      obtain ⟨size, rfl, hs⟩ := (reads_varint s n t).mp hr
      simp only [hr] at h
      obtain ⟨rfl, rfl⟩ := takeBytes_eq_ok_iff.mp h
      exact ⟨size ++ value, by rw [List.append_assoc], .mk hs⟩
  · rintro ⟨front, rfl, ⟨hs⟩⟩
    rename_i size
    rw [List.append_assoc, (reads_varint _ _ _).mpr ⟨size, rfl, hs⟩]
    exact takeBytes_eq_ok_iff.mpr ⟨rfl, rfl⟩

theorem readDelimited_eq_ok_iff {t : WireType} {s value rest : List UInt8} :
    readDelimited t s = .ok (value, rest) ↔
      t = .lengthDelimited ∧ ∃ front, s = front ++ rest ∧ DelimitedBytes front value := by
  rw [readDelimited]
  by_cases ht : t = .lengthDelimited
  · simp [ht, reads_bytes s value rest]
  · simp [ht]

/-! ### Fields that nobody knows -/

/-- What a skipping function takes from the front of its input, and nothing else, has the given
form. -/
def Skips (skip : List UInt8 → Except Fault (List UInt8)) (Form : List UInt8 → Prop) : Prop :=
  ∀ s rest, skip s = .ok rest ↔ ∃ front, s = front ++ rest ∧ Form front

theorem skips_of_reads {α : Type} {read : List UInt8 → Except Fault (α × List UInt8)}
    {Form : List UInt8 → α → Prop} (h : Reads read Form) :
    Skips (fun s => (read s).map Prod.snd) fun front => ∃ a, Form front a := by
  intro s rest
  constructor
  · intro hs
    cases hr : read s with
    | error f => simp [hr, Except.map] at hs
    | ok r =>
      obtain ⟨a, t⟩ := r
      obtain rfl : t = rest := by simpa [hr, Except.map] using hs
      obtain ⟨front, he, hf⟩ := (h s a t).mp hr
      exact ⟨front, he, a, hf⟩
  · rintro ⟨front, he, a, hf⟩
    simp [(h s a rest).mpr ⟨front, he, hf⟩, Except.map]

theorem skips_takeBytes (n : Nat) :
    Skips (fun s => (takeBytes n s).map Prod.snd) fun front => front.length = n := by
  have hreads : Reads (takeBytes n) fun front value => value = front ∧ front.length = n := by
    intro s value rest
    rw [takeBytes_eq_ok_iff]
    constructor
    · rintro ⟨hs, hl⟩
      exact ⟨value, hs, rfl, hl⟩
    · rintro ⟨front, hs, rfl, hl⟩
      exact ⟨hs, hl⟩
  intro s rest
  simpa using skips_of_reads hreads s rest

theorem KeyBytes.ne_nil {front : List UInt8} {key : Key} (h : KeyBytes front key) : front ≠ [] := by
  cases h with
  | mk number => exact number.ne_nil

theorem KeyBytes.length_pos {front : List UInt8} {key : Key} (h : KeyBytes front key) :
    0 < front.length :=
  List.length_pos_iff.mpr h.ne_nil

section Group

variable {skip : Key → List UInt8 → Except Fault (List UInt8)} {Value : Key → List UInt8 → Prop}
  (hskip : ∀ key, Skips (skip key) (Value key)) {field : Nat}
include hskip

theorem groupBytes_of_skip {fuel : Nat} {s rest : List UInt8}
    (h : skipGroup skip field fuel s = .ok rest) :
    ∃ front, s = front ++ rest ∧ GroupBytes Value field front := by
  induction fuel generalizing s with
  | zero => simp [skipGroup] at h
  | succ fuel ih =>
    rw [skipGroup] at h
    cases hk : readKey s with
    | error f => simp [hk] at h
    | ok r =>
      obtain ⟨⟨number, t⟩, s'⟩ := r
      obtain ⟨front, rfl, hkey⟩ := (reads_key _ _ _).mp hk
      simp only [hk] at h
      by_cases he : t = .endGroup
      · subst he
        by_cases hf : number = field
        · subst hf
          obtain rfl : s' = rest := by simpa using h
          exact ⟨front, rfl, .close hkey⟩
        · simp [hf] at h
      · rw [if_neg he] at h
        cases hv : skip ⟨number, t⟩ s' with
        | error f => simp [hv] at h
        | ok s'' =>
          obtain ⟨value, rfl, hvalue⟩ := (hskip _ _ _).mp hv
          simp only [hv] at h
          obtain ⟨tail, rfl, htail⟩ := ih h
          exact ⟨front ++ (value ++ tail), by simp only [List.append_assoc],
            .more hkey he hvalue htail⟩

theorem skipGroup_of_groupBytes {front rest : List UInt8} (h : GroupBytes Value field front)
    {fuel : Nat}
    (hfuel : front.length ≤ fuel) : skipGroup skip field fuel (front ++ rest) = .ok rest := by
  induction h generalizing fuel with
  | @close bs key =>
    have hpos := key.length_pos
    obtain ⟨fuel, rfl⟩ : ∃ k, fuel = k + 1 := ⟨fuel - 1, by omega⟩
    simp [skipGroup, (reads_key _ _ _).mpr ⟨bs, rfl, key⟩]
  | @more key front value tail isKey inside isValue _ ih =>
    have hpos := isKey.length_pos
    simp only [List.length_append] at hfuel
    obtain ⟨fuel, rfl⟩ : ∃ k, fuel = k + 1 := ⟨fuel - 1, by omega⟩
    simp only [List.append_assoc]
    simp only [skipGroup, (reads_key _ _ _).mpr ⟨front, rfl, isKey⟩, if_neg inside,
      (hskip key _ _).mpr ⟨value, rfl, isValue⟩]
    exact ih (by omega)

theorem skips_group : Skips (fun s => skipGroup skip field (s.length + 1) s)
    (GroupBytes Value field) := by
  intro s rest
  constructor
  · exact groupBytes_of_skip hskip
  · rintro ⟨front, rfl, hg⟩
    exact skipGroup_of_groupBytes hskip hg (by simp only [List.length_append]; omega)

end Group

/-- A value is skipped just if it has the form of its wire type. -/
theorem skips_field (levels : Nat) (key : Key) :
    Skips (skipField levels key) (UnknownBytes levels key) := by
  induction levels generalizing key with
  | zero => intro s rest; simp [skipField, UnknownBytes]
  | succ levels ih =>
    obtain ⟨field, t⟩ := key
    intro s rest
    cases t with
    | varint => exact skips_of_reads reads_varint s rest
    | fixed64 => exact skips_takeBytes 8 s rest
    | fixed32 => exact skips_takeBytes 4 s rest
    | lengthDelimited => exact skips_of_reads reads_bytes s rest
    | startGroup => exact skips_group ih s rest
    | endGroup => simp [skipField, UnknownBytes]

/-! ### Collections -/

theorem collectionBytes_of_decodeItems {fuel : Nat} {done all : List (List UInt8)} {s : List UInt8}
    (h : decodeItems fuel done s = .ok all) :
    ∃ items, all = done.reverse ++ items ∧ CollectionBytes s items := by
  induction fuel generalizing done s with
  | zero =>
    cases s with
    | nil =>
      obtain rfl : done.reverse = all := by simpa [decodeItems] using h
      exact ⟨[], by simp, .nil⟩
    | cons b s => simp [decodeItems] at h
  | succ fuel ih =>
    cases s with
    | nil =>
      obtain rfl : done.reverse = all := by simpa [decodeItems] using h
      exact ⟨[], by simp, .nil⟩
    | cons b s =>
      rw [decodeItems] at h
      cases hk : readKey (b :: s) with
      | error f => simp [hk] at h
      | ok r =>
        obtain ⟨⟨number, t⟩, s'⟩ := r
        obtain ⟨front, he, hkey⟩ := (reads_key _ _ _).mp hk
        simp only [hk, outside_ok] at h
        rw [he]
        by_cases hone : number = 1
        · subst hone
          rw [if_pos rfl] at h
          cases hv : readDelimited t s' with
          | error f => simp [hv] at h
          | ok r =>
            obtain ⟨item, s''⟩ := r
            obtain ⟨rfl, bs, rfl, hvalue⟩ := readDelimited_eq_ok_iff.mp hv
            simp only [hv, inField_ok] at h
            obtain ⟨items, rfl, hitems⟩ := ih h
            exact ⟨item :: items, by simp, .item hkey hvalue hitems⟩
        · rw [if_neg hone] at h
          cases hv : skipField maxLevels ⟨number, t⟩ s' with
          | error f => simp [hv] at h
          | ok s'' =>
            obtain ⟨bs, rfl, hvalue⟩ := (skips_field _ _ _ _).mp hv
            simp only [hv, outside_ok] at h
            obtain ⟨items, rfl, hitems⟩ := ih h
            exact ⟨items, rfl, .unknown hkey hone hvalue hitems⟩

theorem decodeItems_of_ne_nil {fuel : Nat} {done : List (List UInt8)} {s : List UInt8}
    (h : s ≠ []) :
    decodeItems (fuel + 1) done s =
      match outside (readKey s) with
      | .error e => .error e
      | .ok (key, s) =>
        if key.field = 1 then
          match inField "GrpcPayloadCollection.payload" (readDelimited key.wireType s) with
          | .error e => .error e
          | .ok (item, s) => decodeItems fuel (item :: done) s
        else
          match outside (skipField maxLevels key s) with
          | .error e => .error e
          | .ok s => decodeItems fuel done s := by
  cases s with
  | nil => exact absurd rfl h
  | cons b s => rfl

theorem CollectionBytes.decodeItems {s : List UInt8} {items : List (List UInt8)}
    (h : CollectionBytes s items) {fuel : Nat} (hfuel : s.length ≤ fuel)
    (done : List (List UInt8)) : decodeItems fuel done s = .ok (done.reverse ++ items) := by
  induction h generalizing fuel done with
  | nil => cases fuel <;> simp [Wire.decodeItems]
  | @item front bs item rest items key value _ ih =>
    have hpos := key.length_pos
    simp only [List.length_append] at hfuel
    obtain ⟨fuel, rfl⟩ : ∃ k, fuel = k + 1 := ⟨fuel - 1, by omega⟩
    rw [decodeItems_of_ne_nil (by simp [key.ne_nil]), (reads_key _ _ _).mpr ⟨front, rfl, key⟩]
    simp only [outside_ok, if_true, readDelimited_eq_ok_iff.mpr ⟨rfl, bs, rfl, value⟩, inField_ok]
    rw [ih (by omega)]
    simp
  | @unknown key front bs rest items isKey other value _ ih =>
    have hpos := isKey.length_pos
    simp only [List.length_append] at hfuel
    obtain ⟨fuel, rfl⟩ : ∃ k, fuel = k + 1 := ⟨fuel - 1, by omega⟩
    rw [decodeItems_of_ne_nil (by simp [isKey.ne_nil]), (reads_key _ _ _).mpr ⟨front, rfl, isKey⟩]
    simp only [outside_ok, if_neg other, (skips_field _ _ _ _).mpr ⟨bs, rfl, value⟩]
    exact ih (by omega) done

/-- The decoder accepts the byte strings of collections, and yields their items in order. -/
theorem decodeCollection_eq_ok_iff {s : List UInt8} {items : List (List UInt8)} :
    decodeCollection s = .ok items ↔ CollectionBytes s items := by
  constructor
  · intro h
    obtain ⟨all, rfl, hall⟩ := collectionBytes_of_decodeItems h
    simpa using hall
  · intro h
    simpa [decodeCollection] using h.decodeItems (Nat.le_refl _) []

theorem CollectionBytes.unique {s : List UInt8} {items others : List (List UInt8)}
    (h : CollectionBytes s items) (ho : CollectionBytes s others) : items = others :=
  Except.ok.inj ((decodeCollection_eq_ok_iff.mpr h).symm.trans (decodeCollection_eq_ok_iff.mpr ho))

end WindowGateway.Wire
