import WindowGateway.Json.Lines
import WindowGateway.Proofs.Json.Integer
import WindowGateway.Proofs.Json.Literal

/-! Documents read back: the compact text of a document without floating-point numbers is read as
that document, if it nests no deeper than the reader goes. -/

namespace WindowGateway.Json

open Text.Utf8 (encode encode_cons encode_append)

namespace Value

mutual

/-- Whether a value holds no floating-point number, at any depth. -/
def floatFree : Value → Bool
  | number (.real _ _) => false
  | array items => itemsFloatFree items
  | object members => membersFloatFree members
  | null | bool _ | number (.integer _ _) | string _ => true

def itemsFloatFree : List Value → Bool
  | [] => true
  | v :: vs => v.floatFree && itemsFloatFree vs

def membersFloatFree : List (String × Value) → Bool
  | [] => true
  | (_, v) :: ms => v.floatFree && membersFloatFree ms

end

theorem itemsFloatFree_iff {items : List Value} :
    itemsFloatFree items = true ↔ ∀ v ∈ items, v.floatFree = true := by
  induction items with
  | nil => simp [itemsFloatFree]
  | cons v vs ih => simp [itemsFloatFree, ih]

theorem membersFloatFree_iff {members : List (String × Value)} :
    membersFloatFree members = true ↔ ∀ m ∈ members, m.2.floatFree = true := by
  induction members with
  | nil => simp [membersFloatFree]
  | cons m ms ih => obtain ⟨k, v⟩ := m; simp [membersFloatFree, ih]

theorem itemsDepth_le_iff {items : List Value} {n : Nat} :
    itemsDepth items ≤ n ↔ ∀ v ∈ items, v.depth ≤ n := by
  induction items with
  | nil => simp [itemsDepth]
  | cons v vs ih => rw [itemsDepth, Nat.max_le, ih, List.forall_mem_cons]

theorem membersDepth_le_iff {members : List (String × Value)} {n : Nat} :
    membersDepth members ≤ n ↔ ∀ m ∈ members, m.2.depth ≤ n := by
  induction members with
  | nil => simp [membersDepth]
  | cons m ms ih =>
    obtain ⟨k, v⟩ := m
    rw [membersDepth, Nat.max_le, ih, List.forall_mem_cons]

end Value

/-! ### The front of a text -/

/-- The reader takes the text of the value for the value, whatever ends it. -/
def ReadsBack (read : Reader Value) (v : Value) : Prop :=
  ∀ rest, EndsNumber rest → read (encode v.chars ++ rest) = .ok (v, rest)

/-- The bytes begin with one that can begin an item of an array. -/
def BeginsItem (s : List UInt8) : Prop :=
  ∃ b tail, s = b :: tail ∧ isBlankByte b = false ∧ b ≠ 0x5D

theorem skipBlanks_cons {b : UInt8} {s : List UInt8} (h : isBlankByte b = false) :
    skipBlanks (b :: s) = b :: s := by
  rw [skipBlanks, List.dropWhile_cons, if_neg (by simp [h])]

theorem beginsItem_of_isDigit {b : UInt8} {s : List UInt8} (h : isDigit b = true) :
    BeginsItem (b :: s) := by
  have hrange : 0x30 ≤ b.toNat ∧ b.toNat ≤ 0x39 := by
    simpa [isDigit, UInt8.le_iff_toNat_le] using h
  refine ⟨b, s, rfl, ?_, ?_⟩
  · rw [isBlankByte]
    simp only [Bool.or_eq_false_iff, beq_eq_false_iff_ne]
    refine ⟨⟨⟨?_, ?_⟩, ?_⟩, ?_⟩ <;> rintro rfl <;> revert hrange <;> decide
  · rintro rfl
    revert hrange
    decide

theorem BeginsItem.append {s : List UInt8} (h : BeginsItem s) (rest : List UInt8) :
    BeginsItem (s ++ rest) := by
  obtain ⟨b, tail, rfl, hb⟩ := h
  exact ⟨b, tail ++ rest, rfl, hb⟩

theorem beginsItem_naturalChars (n : Nat) : BeginsItem (encode (naturalChars n)) := by
  obtain ⟨b, ds, he, _⟩ := digits_head n
  have hdigit : isDigit b = true := isDigit_of_mem_digits b (by rw [he]; exact List.mem_cons_self)
  rw [he]
  exact beginsItem_of_isDigit hdigit

theorem beginsItem_chars {v : Value} (hf : v.floatFree = true) : BeginsItem (encode v.chars) := by
  cases v with
  | null => exact ⟨0x6E, _, rfl, rfl, by decide⟩
  | bool b => cases b <;> exact ⟨_, _, rfl, rfl, by decide⟩
  | number n =>
    cases n with
    | integer value _ =>
      cases value with
      | ofNat n => exact beginsItem_naturalChars n
      | negSucc n => exact ⟨0x2D, _, rfl, rfl, by decide⟩
    | real _ _ => simp [Value.floatFree] at hf
  | string s => exact ⟨0x22, _, rfl, rfl, by decide⟩
  | array items => exact ⟨0x5B, _, rfl, rfl, by decide⟩
  | object members => exact ⟨0x7B, _, rfl, rfl, by decide⟩

theorem endsNumber_comma (s : List UInt8) : EndsNumber (0x2C :: s) := ⟨rfl, rfl⟩

theorem endsNumber_bracket (s : List UInt8) : EndsNumber (0x5D :: s) := ⟨rfl, rfl⟩

theorem endsNumber_brace (s : List UInt8) : EndsNumber (0x7D :: s) := ⟨rfl, rfl⟩

/-! ### Arrays -/

section Arrays

variable {item : Reader Value}

theorem readItems_last {v : Value} {s rest : List UInt8} (h : item s = .ok (v, 0x5D :: rest))
    (fuel : Nat) (done : List Value) :
    readItems item (fuel + 1) done s = .ok (.array (v :: done).reverse, rest) := by
  rw [readItems, h]
  rfl

theorem readItems_more {v : Value} {s s' : List UInt8} (h : item s = .ok (v, 0x2C :: s'))
    (hs : BeginsItem s') (fuel : Nat) (done : List Value) :
    readItems item (fuel + 1) done s = readItems item fuel (v :: done) s' := by
  obtain ⟨b, tail, rfl, hb, hne⟩ := hs
  have hcomma : skipBlanks (0x2C :: b :: tail) = 0x2C :: b :: tail := skipBlanks_cons rfl
  rw [readItems, h]
  simp only [hcomma, skipBlanks_cons hb]
  split
  · next heq => exact absurd heq (List.cons_ne_nil b tail)
  · next heq => exact absurd (List.cons.inj heq).1 hne
  · rfl

theorem encode_itemsChars_cons (v w : Value) (vs : List Value) :
    encode (Value.itemsChars (v :: w :: vs)) =
      encode v.chars ++ 0x2C :: encode (Value.itemsChars (w :: vs)) := by
  rw [Value.itemsChars, encode_append, encode_cons]
  · rfl
  · simp

theorem length_le_itemsChars (v : Value) (vs : List Value) :
    vs.length ≤ (encode (Value.itemsChars (v :: vs))).length := by
  induction vs generalizing v with
  | nil => exact Nat.zero_le _
  | cons w vs ih =>
    have htail := ih w
    rw [encode_itemsChars_cons, List.length_append, List.length_cons, List.length_cons]
    omega

theorem beginsItem_itemsChars {v : Value} (vs : List Value) (hf : v.floatFree = true) :
    BeginsItem (encode (Value.itemsChars (v :: vs))) := by
  have hv := beginsItem_chars hf
  cases vs with
  | nil => exact hv
  | cons w vs =>
    rw [encode_itemsChars_cons]
    exact hv.append _

theorem readItems_chars {v : Value} {vs : List Value}
    (hf : ∀ u ∈ v :: vs, u.floatFree = true) (hi : ∀ u ∈ v :: vs, ReadsBack item u)
    {fuel : Nat} (hfuel : vs.length < fuel) (done : List Value) (rest : List UInt8) :
    readItems item fuel done (encode (Value.itemsChars (v :: vs)) ++ 0x5D :: rest) =
      .ok (.array (done.reverse ++ v :: vs), rest) := by
  obtain ⟨fuel, rfl⟩ : ∃ k, fuel = k + 1 := ⟨fuel - 1, by omega⟩
  have hv := hi v List.mem_cons_self
  -- The reader looks for a comma after each item, so the induction is on the items after the first.
  induction vs generalizing v done fuel with
  | nil =>
    have hlast := hv (0x5D :: rest) (endsNumber_bracket rest)
    rw [Value.itemsChars, readItems_last hlast, List.reverse_cons]
  | cons w vs ih =>
    have hf' := fun u hu => hf u (List.mem_cons_of_mem _ hu)
    have hi' := fun u hu => hi u (List.mem_cons_of_mem _ hu)
    rw [List.length_cons] at hfuel
    obtain ⟨fuel, rfl⟩ : ∃ k, fuel = k + 1 := ⟨fuel - 1, by omega⟩
    have hbegins := (beginsItem_itemsChars vs (hf' w List.mem_cons_self)).append (0x5D :: rest)
    have hmore := hv _ (endsNumber_comma (encode (Value.itemsChars (w :: vs)) ++ 0x5D :: rest))
    rw [encode_itemsChars_cons, List.append_assoc, List.cons_append,
      readItems_more hmore hbegins, ih hf' hi' (v :: done) fuel (by omega)
        (hi' w List.mem_cons_self), List.reverse_cons, List.append_assoc]
    rfl

theorem readArray_chars {items : List Value} (hf : ∀ u ∈ items, u.floatFree = true)
    (hi : ∀ u ∈ items, ReadsBack item u) (rest : List UInt8) :
    readArray item (encode (Value.itemsChars items) ++ 0x5D :: rest) =
      .ok (.array items, rest) := by
  cases items with
  | nil => rfl
  | cons v vs =>
    have hfuel : vs.length < (encode (Value.itemsChars (v :: vs)) ++ 0x5D :: rest).length + 1 := by
      have hlength := length_le_itemsChars v vs
      rw [List.length_append]
      omega
    have hread := readItems_chars hf hi hfuel [] rest
    obtain ⟨b, tail, he, hb, hne⟩ :=
      (beginsItem_itemsChars vs (hf v List.mem_cons_self)).append (0x5D :: rest)
    rw [he] at hread ⊢
    rw [readArray, skipBlanks_cons hb]
    split
    · next heq => exact absurd heq (List.cons_ne_nil b tail)
    · next heq => exact absurd (List.cons.inj heq).1 hne
    · exact hread

end Arrays

/-! ### Objects -/

section Objects

variable {source : Source} {item : Reader Value}

theorem encode_membersChars_single (m : String × Value) :
    encode (Value.membersChars [m]) = encode (literal m.1) ++ 0x3A :: encode m.2.chars := by
  obtain ⟨key, v⟩ := m
  rw [Value.membersChars, encode_append, encode_cons]
  rfl

theorem encode_membersChars_cons (m n : String × Value) (ms : List (String × Value)) :
    encode (Value.membersChars (m :: n :: ms)) =
      encode (literal m.1) ++ 0x3A :: (encode m.2.chars ++
        0x2C :: encode (Value.membersChars (n :: ms))) := by
  obtain ⟨key, v⟩ := m
  rw [Value.membersChars, List.append_assoc, List.cons_append, encode_append, encode_cons,
    encode_append, encode_cons]
  · rfl
  · simp

theorem readMember_chars {key : String} {v : Value} (hv : ReadsBack item v) {body : List UInt8}
    (hkey : ∀ rest, readLiteral source (body ++ rest) = .ok (key, rest)) {rest : List UInt8}
    (hr : EndsNumber rest) :
    readMember source item (body ++ 0x3A :: (encode v.chars ++ rest)) = .ok ((key, v), rest) := by
  have hcolon : ∀ s, skipBlanks (0x3A :: s) = 0x3A :: s := fun s => skipBlanks_cons rfl
  rw [readMember, hkey]
  simp only [bind, Except.bind, hcolon, hv rest hr]
  rfl

theorem readMembers_last {m : String × Value} {s rest : List UInt8}
    (h : readMember source item s = .ok (m, 0x7D :: rest)) (fuel : Nat)
    (done : List (String × Value)) :
    readMembers source item (fuel + 1) done s = .ok (.object (setEntry m.1 m.2 done), rest) := by
  rw [readMembers, h]
  rfl

theorem readMembers_more {m : String × Value} {s s' : List UInt8}
    (h : readMember source item s = .ok (m, 0x2C :: 0x22 :: s')) (fuel : Nat)
    (done : List (String × Value)) :
    readMembers source item (fuel + 1) done s =
      readMembers source item fuel (setEntry m.1 m.2 done) s' := by
  rw [readMembers, h]
  rfl

/-- The members of an object begin with the quote of their first key, and from there on they are
read one after the other. -/
theorem readMembers_chars {m : String × Value} {ms : List (String × Value)}
    (hi : ∀ n ∈ m :: ms, ReadsBack item n.2) :
    ∃ body, encode (Value.membersChars (m :: ms)) = 0x22 :: body ∧ ms.length ≤ body.length ∧
      ∀ (done : List (String × Value)) (fuel : Nat) (rest : List UInt8),
        ((done ++ m :: ms).map Prod.fst).Nodup → ms.length < fuel →
          readMembers source item fuel done (body ++ 0x7D :: rest) =
            .ok (.object (done ++ m :: ms), rest) := by
  obtain ⟨body, hbody, hkey⟩ := readLiteral_literal source m.1
  have hm := hi m List.mem_cons_self
  -- The members read so far are quantified inside the claim: each step of the reader adds one.
  induction ms generalizing m body with
  | nil =>
    refine ⟨body ++ 0x3A :: encode m.2.chars, ?_, Nat.zero_le _, ?_⟩
    · rw [encode_membersChars_single, hbody, List.cons_append]
    · intro done fuel rest hk hfuel
      obtain ⟨fuel, rfl⟩ : ∃ k, fuel = k + 1 := ⟨fuel - 1, by omega⟩
      have hnew := not_mem_of_nodup_append hk
      have hmember := readMember_chars hm hkey (endsNumber_brace rest)
      rw [List.append_assoc, List.cons_append, readMembers_last hmember, setEntry_of_not_mem hnew]
  | cons n ms ih =>
    obtain ⟨body', hbody', hkey'⟩ := readLiteral_literal source n.1
    have hi' := fun u hu => hi u (List.mem_cons_of_mem _ hu)
    obtain ⟨tail, htail, hlength, hread⟩ := ih hi' body' hbody' hkey' (hi' n List.mem_cons_self)
    refine ⟨body ++ 0x3A :: (encode m.2.chars ++ 0x2C :: 0x22 :: tail), ?_, ?_, ?_⟩
    · rw [encode_membersChars_cons, hbody, htail, List.cons_append]
    · simp only [List.length_append, List.length_cons]
      omega
    · intro done fuel rest hk hfuel
      rw [List.length_cons] at hfuel
      obtain ⟨fuel, rfl⟩ : ∃ k, fuel = k + 1 := ⟨fuel - 1, by omega⟩
      have hnew := not_mem_of_nodup_append hk
      have hmember := readMember_chars hm hkey (endsNumber_comma (0x22 :: (tail ++ 0x7D :: rest)))
      have hk' : (((done ++ [(m.1, m.2)]) ++ n :: ms).map Prod.fst).Nodup := by
        rw [List.append_assoc]
        exact hk
      have hrest := hread _ fuel rest hk' (by omega)
      rw [List.append_assoc] at hrest
      simp only [List.append_assoc, List.cons_append]
      rw [readMembers_more hmember, setEntry_of_not_mem hnew, hrest]
      rfl

theorem readObject_chars {members : List (String × Value)} (hk : (members.map Prod.fst).Nodup)
    (hi : ∀ m ∈ members, ReadsBack item m.2) (rest : List UInt8) :
    readObject source item (encode (Value.membersChars members) ++ 0x7D :: rest) =
      .ok (.object members, rest) := by
  cases members with
  | nil => rfl
  | cons m ms =>
    obtain ⟨body, hbody, hlength, hread⟩ := readMembers_chars hi
    have hfuel : ms.length < (body ++ 0x7D :: rest).length + 1 := by
      rw [List.length_append]
      omega
    have hquote : skipBlanks (0x22 :: (body ++ 0x7D :: rest)) = 0x22 :: (body ++ 0x7D :: rest) :=
      skipBlanks_cons rfl
    rw [hbody, List.cons_append, readObject, hquote]
    exact hread [] _ rest hk hfuel

end Objects

/-! ### Values -/

section Values

variable {source : Source} (nested : Option (Reader Value))

theorem readWith_digit {b : UInt8} (h : isDigit b = true) (rest : List UInt8) :
    readWith source nested (b :: rest) =
      (readNumber false (b :: rest)).map fun (n, s) => (.number n, s) := by
  obtain ⟨_, _, heq, hblank, _⟩ := beginsItem_of_isDigit (s := rest) h
  obtain ⟨rfl, rfl⟩ := List.cons.inj heq
  have hne : ∀ d : UInt8, isDigit d = false → b ≠ d := by
    rintro d hd rfl
    rw [h] at hd
    exact Bool.noConfusion hd
  rw [readWith, skipBlanks_cons hblank]
  simp only [if_neg (hne 0x6E rfl), if_neg (hne 0x74 rfl), if_neg (hne 0x66 rfl),
    if_neg (hne 0x2D rfl), if_pos h]

theorem readWith_minus (rest : List UInt8) :
    readWith source nested (0x2D :: rest) =
      (readNumber true rest).map fun (n, s) => (.number n, s) := rfl

theorem readWith_quote (rest : List UInt8) :
    readWith source nested (0x22 :: rest) =
      (readLiteral source rest).map fun (text, s) => (.string text, s) := rfl

theorem readsBack_integer (value : Int)
    (h : -0x8000000000000000 ≤ value ∧ value < 0x10000000000000000) :
    ReadsBack (readWith source nested) (.number (.integer value h)) := by
  intro rest hr
  have hint : Number.ofInt? value = some (.integer value h) := by rw [Number.ofInt?, dif_pos h]
  cases value with
  | ofNat n =>
    have hn : n < 0x10000000000000000 := Int.ofNat_lt.mp h.2
    have hread : readNumber false (encode (naturalChars n) ++ rest) = _ :=
      readNumber_digits hn (by simp) hint hr
    obtain ⟨b, ds, he, _⟩ := digits_head n
    have hdigit : isDigit b = true :=
      isDigit_of_mem_digits b (by rw [he]; exact List.mem_cons_self)
    rw [he, List.cons_append] at hread
    show readWith source nested (encode (naturalChars n) ++ rest) = _
    rw [he, List.cons_append, readWith_digit nested hdigit, hread]
    rfl
  | negSucc n =>
    have hn : n + 1 < 0x10000000000000000 := by omega
    have hread : readNumber true (encode (naturalChars (n + 1)) ++ rest) = _ :=
      readNumber_digits hn (by simp) hint hr
    show readWith source nested (0x2D :: (encode (naturalChars (n + 1)) ++ rest)) = _
    rw [readWith_minus, hread]
    rfl

theorem readsBack_string (text : String) : ReadsBack (readWith source nested) (.string text) := by
  intro rest _
  obtain ⟨body, hbody, hread⟩ := readLiteral_literal source text
  rw [Value.chars, hbody, List.cons_append, readWith_quote, hread]
  rfl

/-- What is no array and no object needs no reader for what is nested. -/
theorem readsBack_scalar {v : Value} (hf : v.floatFree = true) (hd : v.depth = 0) :
    ReadsBack (readWith source nested) v := by
  cases v with
  | null => exact fun rest _ => rfl
  | bool b => cases b <;> exact fun rest _ => rfl
  | number n =>
    cases n with
    | integer value h => exact readsBack_integer nested value h
    | real _ _ => simp [Value.floatFree] at hf
  | string s => exact readsBack_string nested s
  | array items => simp [Value.depth] at hd
  | object members => simp [Value.depth] at hd

end Values

theorem readsBack_array {item : Reader Value} {items : List Value}
    (hf : ∀ u ∈ items, u.floatFree = true) (hi : ∀ u ∈ items, ReadsBack item u) :
    ReadsBack (readWith source (some item)) (.array items) := by
  intro rest _
  have hread := readArray_chars hf hi rest
  rw [Value.chars, List.cons_append, encode_cons, encode_append, List.append_assoc,
    List.append_assoc]
  exact hread

theorem readsBack_object {item : Reader Value} {members : List (String × Value)}
    (hk : (members.map Prod.fst).Nodup) (hi : ∀ m ∈ members, ReadsBack item m.2) :
    ReadsBack (readWith source (some item)) (.object members) := by
  intro rest _
  have hread := @readObject_chars source _ _ hk hi rest
  rw [Value.chars, List.cons_append, encode_cons, encode_append, List.append_assoc,
    List.append_assoc]
  exact hread

/-- A value is read back by a reader that goes as deep as the value nests. -/
theorem readsBack_readValue {levels : Nat} {v : Value} (hf : v.floatFree = true) (hk : v.Distinct)
    (hd : v.depth ≤ levels) : ReadsBack (readValue source levels) v := by
  -- One level opens one array or object, so the induction is on the levels and not on the value.
  induction levels generalizing v with
  | zero => exact readsBack_scalar none hf (Nat.le_zero.mp hd)
  | succ levels ih =>
    cases v with
    | array items =>
      rw [Value.floatFree, Value.itemsFloatFree_iff] at hf
      rw [Value.Distinct, Value.allDistinct_iff] at hk
      rw [Value.depth, Nat.add_le_add_iff_right, Value.itemsDepth_le_iff] at hd
      exact readsBack_array hf fun u hu => ih (hf u hu) (hk u hu) (hd u hu)
    | object members =>
      rw [Value.floatFree, Value.membersFloatFree_iff] at hf
      rw [Value.Distinct, Value.membersDistinct_iff] at hk
      rw [Value.depth, Nat.add_le_add_iff_right, Value.membersDepth_le_iff] at hd
      exact readsBack_object hk.1 fun m hm => ih (hf m hm) (hk.2 m hm) (hd m hm)
    | _ => exact readsBack_scalar _ hf rfl

theorem depth_le_of_yields {levels : Nat} {v : Value} (h : Yields (readValue source levels) v) :
    v.depth ≤ levels := by
  induction levels generalizing v with
  | zero =>
    rcases readWith_builtFrom h with hv | ⟨item, hi, _⟩
    · exact Nat.le_of_eq hv
    · exact absurd hi (by simp)
  | succ levels ih =>
    rcases readWith_builtFrom h with hv | ⟨item, hi, hb⟩
    · omega
    · obtain rfl : readValue source levels = item := Option.some.inj hi
      cases hb with
      | array parts =>
        rw [Value.depth, Nat.add_le_add_iff_right, Value.itemsDepth_le_iff]
        exact fun u hu => ih (parts u hu)
      | object _ parts =>
        rw [Value.depth, Nat.add_le_add_iff_right, Value.membersDepth_le_iff]
        exact fun m hm => ih (parts m hm)

/-! ### Documents -/

section Documents

variable {source : Source} {s : List UInt8} {d : Document}

theorem Document.read_eq_ok_iff :
    Document.read source s = .ok d ↔ parseValue source s = .ok d.value := by
  rw [Document.read]
  split
  · next v h =>
    constructor
    · intro heq
      rw [h, ← Except.ok.inj heq]
    · intro heq
      have hv : v = d.value := Except.ok.inj (h.symm.trans heq)
      exact congrArg Except.ok (Document.ext hv)
  · next e h => simp [h]

/-- The text of a document is read as the document. -/
theorem Document.parse_bytes (hf : d.value.floatFree = true) (hd : d.value.depth ≤ maxDepth) :
    Document.parse d.bytes = .ok d := by
  have hread := @readsBack_readValue .bytes _ _ hf d.distinct hd [] ⟨rfl, rfl⟩
  rw [List.append_nil] at hread
  rw [Document.parse, Document.read_eq_ok_iff, parseValue, Document.bytes, hread]
  rfl

theorem Document.depth_of_read (h : Document.read source s = .ok d) :
    d.value.depth ≤ maxDepth := by
  rw [Document.read_eq_ok_iff, parseValue] at h
  split at h
  · simp at h
  · next v rest hv =>
    have hdepth := depth_le_of_yields ⟨s, rest, hv⟩
    split at h
    · rwa [Except.ok.inj h] at hdepth
    · simp at h

end Documents

theorem depth_of_parseNumbered {number : Nat} {lines : List String} {docs : List Document}
    (h : parseNumbered number lines = .ok docs) : ∀ d ∈ docs, d.value.depth ≤ maxDepth := by
  induction lines generalizing number docs with
  | nil =>
    obtain rfl : [] = docs := Except.ok.inj h
    simp
  | cons line lines ih =>
    rw [parseNumbered] at h
    split at h
    · exact ih h
    · split at h
      · simp at h
      · next d hd =>
        cases htail : parseNumbered (number + 1) lines with
        | error e => simp [htail, Except.map] at h
        | ok rest =>
          rw [htail] at h
          obtain rfl : d :: rest = docs := Except.ok.inj h
          intro u hu
          rcases List.mem_cons.mp hu with rfl | hu
          · exact Document.depth_of_read hd
          · exact ih htail u hu

/-- The documents of a text nest no deeper than the reader goes. -/
theorem depth_of_parseLines {text : String} {docs : List Document}
    (h : parseLines text = .ok docs) : ∀ d ∈ docs, d.value.depth ≤ maxDepth :=
  depth_of_parseNumbered h

end WindowGateway.Json
