import WindowGateway.Json.ReadNumber
import WindowGateway.Json.ReadString

/-! Reading JSON documents, from bytes or from a text. Arrays and objects nest at most 127 deep, and
of several members with one key the last value counts, in the position of the first. -/

namespace WindowGateway.Json

/-- A reader takes a value from the front of the bytes. -/
abbrev Reader (α : Type) := List UInt8 → Except Fault (α × List UInt8)

def isBlankByte (b : UInt8) : Bool := b == 0x20 || b == 0x0A || b == 0x09 || b == 0x0D

def skipBlanks (s : List UInt8) : List UInt8 := s.dropWhile isBlankByte

/-- The bytes after the rest of a keyword. -/
def readKeyword : List UInt8 → List UInt8 → Except Fault (List UInt8)
  | [], s => .ok s
  | _ :: _, [] => .error (.before .endInValue [])
  | k :: ks, b :: s => if b = k then readKeyword ks s else .error (.before .expectedIdent s)

/-- The items of an array from the one at the front on; `done` holds those before it, the last one
first. -/
def readItems (item : Reader Value) : Nat → List Value → Reader Value
  | 0, _, s => .error (.on .endInList s)
  | fuel + 1, done, s =>
    match item s with
    | .error f => .error f
    | .ok (v, s) =>
      match skipBlanks s with
      | [] => .error (.on .endInList [])
      | 0x5D :: s => .ok (.array (v :: done).reverse, s)
      | 0x2C :: s =>
        match skipBlanks s with
        | [] => .error (.on .endInValue [])
        | 0x5D :: s => .error (.on .trailingComma (0x5D :: s))
        | s => readItems item fuel (v :: done) s
      | s => .error (.on .expectedListEnd s)

def readArray (item : Reader Value) : Reader Value := fun s =>
  match skipBlanks s with
  | [] => .error (.on .endInList [])
  | 0x5D :: s => .ok (.array [], s)
  | s => readItems item (s.length + 1) [] s

/-- A member of an object, after the quote that opens its key. -/
def readMember (source : Source) (item : Reader Value) : Reader (String × Value) := fun s => do
  let (key, s) ← readLiteral source s
  match skipBlanks s with
  | [] => throw (.on .endInObject [])
  | 0x3A :: s =>
    let (value, s) ← item s
    return ((key, value), s)
  | s => throw (.on .expectedColon s)

/-- The members of an object from the one at the front on, after the quote that opens its key;
`done` holds the members before it. -/
def readMembers (source : Source) (item : Reader Value) :
    Nat → List (String × Value) → Reader Value
  | 0, _, s => .error (.on .endInObject s)
  | fuel + 1, done, s =>
    match readMember source item s with
    | .error f => .error f
    | .ok ((key, value), s) =>
      let done := setEntry key value done
      match skipBlanks s with
      | [] => .error (.on .endInObject [])
      | 0x7D :: s => .ok (.object done, s)
      | 0x2C :: s =>
        match skipBlanks s with
        | [] => .error (.on .endInValue [])
        | 0x22 :: s => readMembers source item fuel done s
        | 0x7D :: s => .error (.on .trailingComma (0x7D :: s))
        | s => .error (.on .keyNotString s)
      | s => .error (.on .expectedObjectEnd s)

def readObject (source : Source) (item : Reader Value) : Reader Value := fun s =>
  match skipBlanks s with
  | [] => .error (.on .endInObject [])
  | 0x7D :: s => .ok (.object [], s)
  | 0x22 :: s => readMembers source item (s.length + 1) [] s
  | s => .error (.on .keyNotString s)

/-- The value at the front, after blanks; `nested` reads what lies inside arrays and objects, and is
absent where no more of them may be opened. -/
def readWith (source : Source) (nested : Option (Reader Value)) : Reader Value := fun s =>
  match skipBlanks s with
  | [] => .error (.on .endInValue [])
  | b :: rest =>
    if b = 0x6E then (readKeyword [0x75, 0x6C, 0x6C] rest).map (.null, ·)
    else if b = 0x74 then (readKeyword [0x72, 0x75, 0x65] rest).map (.bool true, ·)
    else if b = 0x66 then (readKeyword [0x61, 0x6C, 0x73, 0x65] rest).map (.bool false, ·)
    else if b = 0x2D then (readNumber true rest).map fun (n, s) => (.number n, s)
    else if isDigit b then (readNumber false (b :: rest)).map fun (n, s) => (.number n, s)
    else if b = 0x22 then (readLiteral source rest).map fun (text, s) => (.string text, s)
    else if b = 0x5B ∨ b = 0x7B then
      match nested with
      | none => .error (.on .tooDeep (b :: rest))
      | some item => if b = 0x5B then readArray item rest else readObject source item rest
    else .error (.on .expectedValue (b :: rest))

/-- Reads a value that opens at most the given number of arrays and objects around each other. -/
def readValue (source : Source) : Nat → Reader Value
  | 0 => readWith source none
  | levels + 1 => readWith source (some (readValue source levels))

/-- The deepest nesting that is read. -/
def maxDepth : Nat := 127

/-- The value that the bytes are, with blanks around it. -/
def parseValue (source : Source) (s : List UInt8) : Except ParseError Value :=
  match readValue source maxDepth s with
  | .error f => .error (f.locate s)
  | .ok (v, rest) =>
    match skipBlanks rest with
    | [] => .ok v
    | rest => .error ((Fault.on .trailingCharacters rest).locate s)

/-- The reader can yield the value. -/
def Yields (read : Reader Value) (v : Value) : Prop := ∃ s rest, read s = .ok (v, rest)

/-- The value is an array or an object, without repeated keys, of parts that have the property. -/
inductive BuiltFrom (Part : Value → Prop) : Value → Prop
  | array {items : List Value} (parts : ∀ u ∈ items, Part u) : BuiltFrom Part (.array items)
  | object {members : List (String × Value)} (keys : (members.map Prod.fst).Nodup)
      (parts : ∀ m ∈ members, Part m.2) : BuiltFrom Part (.object members)

theorem readItems_builtFrom {item : Reader Value} {fuel : Nat} {done : List Value}
    (hd : ∀ u ∈ done, Yields item u) {s rest : List UInt8} {v : Value}
    (hr : readItems item fuel done s = .ok (v, rest)) : BuiltFrom (Yields item) v := by
  induction fuel generalizing done s with
  | zero => simp [readItems] at hr
  | succ fuel ih =>
    rw [readItems] at hr
    split at hr
    · simp at hr
    · next w s' hw =>
      have hwd : ∀ u ∈ w :: done, Yields item u := by
        intro u hu
        rcases List.mem_cons.mp hu with rfl | hu
        · exact ⟨_, _, hw⟩
        · exact hd u hu
      split at hr
      · simp at hr
      · obtain ⟨rfl, _⟩ : Value.array (w :: done).reverse = v ∧ _ := by simpa using hr
        exact .array fun u hu => hwd u (List.mem_reverse.mp hu)
      · split at hr
        · simp at hr
        · simp at hr
        · exact ih hwd hr
      · simp at hr

theorem readArray_builtFrom {item : Reader Value} {s rest : List UInt8} {v : Value}
    (hr : readArray item s = .ok (v, rest)) : BuiltFrom (Yields item) v := by
  rw [readArray] at hr
  split at hr
  · simp at hr
  · obtain ⟨rfl, _⟩ : Value.array [] = v ∧ _ := by simpa using hr
    exact .array fun u hu => absurd hu (by simp)
  · exact readItems_builtFrom (fun u hu => absurd hu (by simp)) hr

theorem readMember_yields {source : Source} {item : Reader Value} {s rest : List UInt8}
    {m : String × Value} (hr : readMember source item s = .ok (m, rest)) : Yields item m.2 := by
  rw [readMember] at hr
  cases hl : readLiteral source s with
  | error f => simp [hl, bind, Except.bind] at hr
  | ok p =>
    obtain ⟨key, s'⟩ := p
    simp only [hl, bind, Except.bind] at hr
    split at hr
    · simp [throw, throwThe, MonadExceptOf.throw] at hr
    · next s'' _ =>
      cases hi : item s'' with
      | error f => simp [hi] at hr
      | ok q =>
        simp only [hi, pure, Except.pure, Except.ok.injEq, Prod.mk.injEq] at hr
        obtain ⟨rfl, _⟩ := hr
        exact ⟨_, _, hi⟩
    · simp [throw, throwThe, MonadExceptOf.throw] at hr

theorem readMembers_builtFrom {source : Source} {item : Reader Value} {fuel : Nat}
    {done : List (String × Value)} (hk : (done.map Prod.fst).Nodup)
    (hd : ∀ m ∈ done, Yields item m.2) {s rest : List UInt8} {v : Value}
    (hr : readMembers source item fuel done s = .ok (v, rest)) :
    BuiltFrom (Yields item) v := by
  induction fuel generalizing done s with
  | zero => simp [readMembers] at hr
  | succ fuel ih =>
    rw [readMembers] at hr
    split at hr
    · simp at hr
    · next key value s' hm =>
      have hk' := nodup_keys_setEntry key value hk
      have hd' : ∀ m ∈ setEntry key value done, Yields item m.2 := by
        intro m hmem
        rcases mem_setEntry hmem with rfl | hmem
        · exact readMember_yields hm
        · exact hd m hmem
      split at hr
      · simp at hr
      · obtain ⟨rfl, _⟩ : Value.object (setEntry key value done) = v ∧ _ := by simpa using hr
        exact .object hk' hd'
      · split at hr
        · simp at hr
        · exact ih hk' hd' hr
        · simp at hr
        · simp at hr
      · simp at hr

theorem readObject_builtFrom {source : Source} {item : Reader Value} {s rest : List UInt8}
    {v : Value} (hr : readObject source item s = .ok (v, rest)) : BuiltFrom (Yields item) v := by
  rw [readObject] at hr
  split at hr
  · simp at hr
  · obtain ⟨rfl, _⟩ : Value.object [] = v ∧ _ := by simpa using hr
    exact .object (by simp) fun u hu => absurd hu (by simp)
  · exact readMembers_builtFrom (by simp) (fun u hu => absurd hu (by simp)) hr
  · simp at hr

theorem depth_of_map {α : Type} {x : Except Fault α} {f : α → Value × List UInt8} {v : Value}
    {rest : List UInt8} (hf : ∀ a, (f a).1.depth = 0) (hr : x.map f = .ok (v, rest)) :
    v.depth = 0 := by
  cases x with
  | error e => simp [Except.map] at hr
  | ok a =>
    have hv : f a = (v, rest) := Except.ok.inj hr
    have ha := hf a
    rw [hv] at ha
    exact ha

/-- What a reader of values can yield: no array and no object, or one whose parts come from the
reader for what is nested. -/
theorem readWith_builtFrom {source : Source} {nested : Option (Reader Value)} {v : Value}
    (h : Yields (readWith source nested) v) :
    v.depth = 0 ∨ ∃ item, nested = some item ∧ BuiltFrom (Yields item) v := by
  obtain ⟨s, rest, hr⟩ := h
  rw [readWith] at hr
  split at hr
  · simp at hr
  · next b tail _ =>
    split at hr
    · exact .inl (depth_of_map (fun _ => rfl) hr)
    split at hr
    · exact .inl (depth_of_map (fun _ => rfl) hr)
    split at hr
    · exact .inl (depth_of_map (fun _ => rfl) hr)
    split at hr
    · exact .inl (depth_of_map (fun _ => rfl) hr)
    split at hr
    · exact .inl (depth_of_map (fun _ => rfl) hr)
    split at hr
    · exact .inl (depth_of_map (fun _ => rfl) hr)
    split at hr
    · split at hr
      · simp at hr
      · next item =>
        refine .inr ⟨item, rfl, ?_⟩
        split at hr
        · exact readArray_builtFrom hr
        · exact readObject_builtFrom hr
    · simp at hr

theorem distinct_of_depth {v : Value} (h : v.depth = 0) : v.Distinct := by
  cases v with
  | array items => simp [Value.depth] at h
  | object members => simp [Value.depth] at h
  | _ => simp [Value.Distinct]

theorem readValue_distinct {source : Source} {levels : Nat} {v : Value}
    (h : Yields (readValue source levels) v) : v.Distinct := by
  induction levels generalizing v with
  | zero =>
    rcases readWith_builtFrom h with hv | ⟨item, hi, _⟩
    · exact distinct_of_depth hv
    · exact absurd hi (by simp)
  | succ levels ih =>
    rcases readWith_builtFrom h with hv | ⟨item, hi, hb⟩
    · exact distinct_of_depth hv
    · obtain rfl : readValue source levels = item := Option.some.inj hi
      cases hb with
      | array parts => exact Value.distinct_array fun u hu => ih (parts u hu)
      | object keys parts => exact Value.distinct_object keys fun m hm => ih (parts m hm)

/-- No object of a value that was read has the same key twice. -/
theorem parseValue_distinct {source : Source} {s : List UInt8} {v : Value}
    (h : parseValue source s = .ok v) : v.Distinct := by
  rw [parseValue] at h
  split at h
  · simp at h
  · next w rest hw =>
    split at h
    · obtain rfl : w = v := by simpa using h
      exact readValue_distinct ⟨_, _, hw⟩
    · simp at h

def Document.read (source : Source) (s : List UInt8) : Except ParseError Document :=
  match h : parseValue source s with
  | .ok v => .ok ⟨v, parseValue_distinct h⟩
  | .error e => .error e

/-- The document that the bytes are. -/
def Document.parse (s : List UInt8) : Except ParseError Document := Document.read .bytes s

/-- The document that the text is. -/
def Document.parseText (text : String) : Except ParseError Document :=
  Document.read .text (Text.bytes text)

end WindowGateway.Json
