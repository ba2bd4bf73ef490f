import WindowGateway.Proofs.Except
import WindowGateway.Proofs.Wire.RoundTrip

/-! Collections one after the other. A collection is a sequence of fields with nothing around it, so
the bytes of two collections, put together, are those of a collection with the items of both. The
decoder takes just the bytes of the first, whatever comes after them, and fails where the second
does. -/

namespace WindowGateway.Wire

/-! ### One field -/

/-- The field at the front, with the item that it is, if it is one. -/
def readField (s : List UInt8) : Except DecodeError (Option (List UInt8) × List UInt8) :=
  match outside (readKey s) with
  | .error e => .error e
  | .ok (key, s) =>
    if key.field = 1 then
      (inField "GrpcPayloadCollection.payload" (readDelimited key.wireType s)).map
        fun (item, s) => (some item, s)
    else (outside (skipField maxLevels key s)).map fun s => (none, s)

/-- The bytes of a field of a collection, with the item that it is, if it is one. -/
inductive FieldBytes : List UInt8 → Option (List UInt8) → Prop
  | item {front bs item : List UInt8} (key : KeyBytes front ⟨1, .lengthDelimited⟩)
      (value : DelimitedBytes bs item) : FieldBytes (front ++ bs) (some item)
  | unknown {key : Key} {front bs : List UInt8} (isKey : KeyBytes front key)
      (other : key.field ≠ 1) (value : UnknownBytes maxLevels key bs) :
      FieldBytes (front ++ bs) none

section Field

variable {fuel : Nat} {done : List (List UInt8)} {s rest : List UInt8}
  {item? : Option (List UInt8)}

theorem FieldBytes.ne_nil {front : List UInt8} (h : FieldBytes front item?) : front ≠ [] := by
  cases h with
  | item key _ => exact List.append_ne_nil_of_left_ne_nil key.ne_nil _
  | unknown isKey _ _ => exact List.append_ne_nil_of_left_ne_nil isKey.ne_nil _

theorem reads_field : Reads readField FieldBytes := by
  intro s item? rest
  rw [readField]
  constructor
  · intro h
    cases hk : readKey s with
    | error f => simp [hk] at h
    | ok r =>
      obtain ⟨⟨number, t⟩, s'⟩ := r
      obtain ⟨front, rfl, hkey⟩ := (reads_key _ _ _).mp hk
      simp only [hk, outside_ok] at h
      by_cases hone : number = 1
      · subst hone
        rw [if_pos rfl] at h
        obtain ⟨⟨item, s''⟩, hv, he⟩ := map_eq_ok_iff.mp h
        obtain ⟨rfl, bs, rfl, hvalue⟩ := readDelimited_eq_ok_iff.mp (mapError_eq_ok_iff.mp hv)
        cases he
        exact ⟨front ++ bs, (List.append_assoc ..).symm, .item hkey hvalue⟩
      · rw [if_neg hone] at h
        obtain ⟨s'', hv, he⟩ := map_eq_ok_iff.mp h
        obtain ⟨bs, rfl, hvalue⟩ := (skips_field _ _ _ _).mp (mapError_eq_ok_iff.mp hv)
        cases he
        exact ⟨front ++ bs, (List.append_assoc ..).symm, .unknown hkey hone hvalue⟩
  · rintro ⟨field, rfl, hfield⟩
    cases hfield with
    | @item front bs item key value =>
      have hv : readDelimited .lengthDelimited (bs ++ rest) = .ok (item, rest) :=
        readDelimited_eq_ok_iff.mpr ⟨rfl, bs, rfl, value⟩
      rw [List.append_assoc, (reads_key _ _ _).mpr ⟨front, rfl, key⟩]
      simp only [outside_ok, if_true, hv, inField_ok]
      rfl
    | @unknown key front bs isKey other value =>
      have hv : skipField maxLevels key (bs ++ rest) = .ok rest :=
        (skips_field _ _ _ _).mpr ⟨bs, rfl, value⟩
      rw [List.append_assoc, (reads_key _ _ _).mpr ⟨front, rfl, isKey⟩]
      simp only [outside_ok, if_neg other, hv]
      rfl

theorem length_lt_of_readField (h : readField s = .ok (item?, rest)) :
    rest.length < s.length := by
  obtain ⟨front, rfl, hfront⟩ := (reads_field _ _ _).mp h
  have hpos := List.length_pos_iff.mpr hfront.ne_nil
  rw [List.length_append]
  omega

/-- One turn of the decoder's loop. -/
theorem decodeItems_field (h : s ≠ []) :
    decodeItems (fuel + 1) done s =
      match readField s with
      | .error e => .error e
      | .ok (item?, rest) => decodeItems fuel (item?.toList ++ done) rest := by
  rw [decodeItems_of_ne_nil h, readField]
  cases readKey s with
  | error f => rfl
  | ok r =>
    obtain ⟨key, s'⟩ := r
    simp only [outside_ok]
    split
    · cases readDelimited key.wireType s' <;> rfl
    · cases skipField maxLevels key s' <;> rfl

/-! ### The loop -/

/-- The items read before stand in front of those that are read. -/
theorem decodeItems_done (done : List (List UInt8)) (s : List UInt8) :
    decodeItems fuel done s = (decodeItems fuel [] s).map (done.reverse ++ ·) := by
  induction fuel generalizing done s with
  | zero => cases s <;> simp [decodeItems, Except.map]
  | succ fuel ih =>
    by_cases hs : s = []
    · subst hs
      simp [decodeItems, Except.map]
    rw [decodeItems_field hs, decodeItems_field hs]
    cases readField s with
    | error e => rfl
    | ok r =>
      obtain ⟨item?, rest⟩ := r
      simp only
      rw [ih (item?.toList ++ done), ih (item?.toList ++ []), map_map]
      congr 1
      funext items
      simp

/-- No more turns are taken than there are bytes. -/
theorem decodeItems_fuel {fuel' : Nat} (h : s.length ≤ fuel) (h' : s.length ≤ fuel') :
    decodeItems fuel done s = decodeItems fuel' done s := by
  induction fuel generalizing fuel' done s with
  | zero =>
    obtain rfl : s = [] := List.length_eq_zero_iff.mp (Nat.le_zero.mp h)
    cases fuel' <;> rfl
  | succ fuel ih =>
    by_cases hs : s = []
    · subst hs
      cases fuel' <;> rfl
    have hpos := List.length_pos_iff.mpr hs
    obtain ⟨fuel', rfl⟩ : ∃ k, fuel' = k + 1 := ⟨fuel' - 1, by omega⟩
    rw [decodeItems_field hs, decodeItems_field hs]
    cases hr : readField s with
    | error e => rfl
    | ok r =>
      have hlt := length_lt_of_readField hr
      exact ih (by omega) (by omega)

end Field

/-! ### Collections -/

section Collections

variable {x : List UInt8} {items : List (List UInt8)}

/-- A field at the front adds its item to those of the rest, if it is one. -/
theorem decodeCollection_field {front : List UInt8} {item? : Option (List UInt8)}
    (h : FieldBytes front item?) (s : List UInt8) :
    decodeCollection (front ++ s) = (decodeCollection s).map (item?.toList ++ ·) := by
  have hne : front ++ s ≠ [] := List.append_ne_nil_of_left_ne_nil h.ne_nil s
  have hpos := List.length_pos_iff.mpr h.ne_nil
  obtain ⟨fuel, hfuel⟩ : ∃ k, (front ++ s).length = k + 1 := by
    rw [List.length_append]
    exact ⟨front.length + s.length - 1, by omega⟩
  have hs : s.length ≤ fuel := by
    rw [List.length_append] at hfuel
    omega
  rw [decodeCollection, hfuel, decodeItems_field hne, (reads_field _ _ _).mpr ⟨front, rfl, h⟩]
  simp only
  rw [decodeItems_done, List.append_nil, decodeItems_fuel hs (Nat.le_refl _), decodeCollection]
  cases item? <;> rfl

theorem CollectionBytes.append (h : CollectionBytes x items) (y : List UInt8) :
    decodeCollection (x ++ y) = (decodeCollection y).map (items ++ ·) := by
  induction h with
  | nil =>
    rw [List.nil_append]
    cases decodeCollection y <;> rfl
  | @item front bs item rest items key value _ ih =>
    rw [← List.append_assoc, List.append_assoc, decodeCollection_field (.item key value), ih]
    exact map_map ..
  | @unknown key front bs rest items isKey other value _ ih =>
    rw [← List.append_assoc, List.append_assoc,
      decodeCollection_field (.unknown isKey other value), ih]
    exact map_map ..

/-- Collections are put together by putting their bytes together. Behind the bytes of a collection
the decoder does what it does without them: it succeeds just if it does on the bytes that follow,
and then their items come after those of the collection. -/
theorem collection_append :
    (∀ x items y, decodeCollection x = .ok items →
      decodeCollection (x ++ y) = (decodeCollection y).map (items ++ ·)) ∧
    ∀ items others : List (List UInt8),
      encodeCollection (items ++ others) = encodeCollection items ++ encodeCollection others :=
  ⟨fun _ _ y h => (decodeCollection_eq_ok_iff.mp h).append y,
    fun _ _ => List.flatMap_append⟩

/-- A key and a length in more bytes than they need, and a group with values of every type in it.
Behind it come an empty item and a padded number, or a length without its value. -/
theorem collection_append_group :
    let x := [0x8A, 0x00, 0x81, 0x80, 0x00, 0x61,
      0x13, 0x08, 0x96, 0x01, 0x1B, 0x25, 1, 2, 3, 4, 0x1C, 0x21, 1, 2, 3, 4, 5, 6, 7, 8,
      0x0A, 0x01, 0x14, 0x14]
    let y := [0x0A, 0x00, 0x10, 0x80, 0x00]
    decodeCollection x = .ok [[0x61]] ∧ decodeCollection (x ++ y) = .ok [[0x61], []] ∧
      decodeCollection (x ++ [0x0A, 0x01]) =
        .error ⟨some "GrpcPayloadCollection.payload", .underflow⟩ := by
  intro x y
  have hx : decodeCollection x = .ok [[0x61]] :=
    toOption_eq_some_iff.mp (by decide +kernel)
  refine ⟨hx, ?_, ?_⟩
  · rw [collection_append.1 x _ y hx]
    rfl
  · rw [collection_append.1 x _ _ hx]
    rfl

end Collections

end WindowGateway.Wire
