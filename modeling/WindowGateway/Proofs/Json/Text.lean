import WindowGateway.Proofs.Json.Boundary

/-! Documents of texts. A reader of a text does not check the bytes of string literals, and need
not: what stands between the quotes are whole characters, and an escape stands for a whole
character, too. On the bytes of a text each reader does what the reader of bytes does, faults
included. -/

namespace WindowGateway.Json

open Text.Utf8 (Boundary Continues encode encodeChar encodeChar_cons encodeChar_prefix_unique
  encode_append encode_cons)

/-- The bytes are those of whole characters. -/
def OfText (s : List UInt8) : Prop := ∃ cs, s = encode cs

theorem OfText.rest {s rest : List UInt8} (h : OfText s) (hrest : Boundary s rest) :
    OfText rest := by
  obtain ⟨cs, rfl⟩ := h
  obtain ⟨ds, hds⟩ := hrest
  induction ds generalizing cs with
  | nil => exact ⟨cs, hds.symm⟩
  | cons d ds ih =>
    rw [encode_cons, List.append_assoc] at hds
    cases cs with
    | nil => exact absurd (List.append_eq_nil_iff.mp hds.symm).1 (Text.Utf8.encodeChar_ne_nil d)
    | cons c cs =>
      rw [encode_cons] at hds
      exact ih cs (encodeChar_prefix_unique hds).2

/-! ### String literals -/

theorem plain_of_continues {k : UInt8} (h : Continues k) : ¬k = 0x22 ∧ ¬k = 0x5C ∧ ¬k < 0x20 := by
  have hlow : 0x80 ≤ k.toNat := h.1
  refine ⟨?_, ?_, ?_⟩
  · rintro rfl
    exact absurd hlow (by decide)
  · rintro rfl
    exact absurd hlow (by decide)
  · rw [UInt8.lt_iff_toNat_lt]
    exact Nat.not_lt.mpr (Nat.le_trans (by decide) hlow)

/-- The bytes so far end inside a character, of which `ks` are still to come, or behind one. -/
theorem readLiteralFrom_text {fuel : Nat} {done ks : List UInt8} {cs ds : List Char}
    (hks : ∀ k ∈ ks, Continues k) (hdone : done.reverse ++ ks = encode ds) :
    readLiteralFrom .text fuel done (ks ++ encode cs) =
      readLiteralFrom .bytes fuel done (ks ++ encode cs) := by
  induction fuel generalizing done ks cs ds with
  | zero => cases ks ++ encode cs <;> rfl
  | succ fuel ih =>
    cases ks with
    | cons k ks =>
      rw [List.forall_mem_cons] at hks
      obtain ⟨hquote, hslash, hcontrol⟩ := plain_of_continues hks.1
      have hnext : (k :: done).reverse ++ ks = encode ds := by
        rw [← hdone, List.reverse_cons, List.append_assoc, List.singleton_append]
      simp only [List.cons_append, readLiteralFrom, if_neg hquote, if_neg hslash, if_neg hcontrol]
      exact ih hks.2 hnext
    | nil =>
      rw [List.append_nil] at hdone
      cases cs with
      | nil => rfl
      | cons c cs =>
        obtain ⟨lead, tail, hc, -, htail⟩ := encodeChar_cons c
        have htext : OfText (lead :: (tail ++ encode cs)) := ⟨c :: cs, by rw [encode_cons, hc]; rfl⟩
        rw [List.nil_append, encode_cons, hc, List.cons_append, readLiteralFrom, readLiteralFrom]
        split
        · simp only [hdone, Source.literalText_encode]
        split
        · next hb =>
          have hrest := htext.rest (.ascii (hb ▸ by decide) _)
          cases hescape : readEscape (tail ++ encode cs) with
          | error f => rfl
          | ok p =>
            obtain ⟨bytes, s⟩ := p
            obtain ⟨⟨d, rfl⟩, hs⟩ := readEscape_takes hescape
            obtain ⟨es, rfl⟩ := hrest.rest hs
            have hnext : ((encodeChar d).reverse ++ done).reverse ++ [] = encode (ds ++ [d]) := by
              rw [List.append_nil, List.reverse_append, List.reverse_reverse, hdone, encode_append,
                encode_cons]
              simp [encode]
            exact ih (List.forall_mem_nil _) hnext
        split
        · rfl
        · have hnext : (lead :: done).reverse ++ tail = encode (ds ++ [c]) := by
            rw [List.reverse_cons, List.append_assoc, List.singleton_append, ← hc, hdone,
              encode_append, encode_cons]
            simp [encode]
          exact ih htail hnext

/-! ### Readers -/

/-- The one reader does on the bytes of texts what the other does. -/
def Agree {α : Type} (read other : List UInt8 → Except Fault (α × List UInt8)) : Prop :=
  ∀ s, OfText s → read s = other s

theorem agree_readLiteral : Agree (readLiteral .text) (readLiteral .bytes) := by
  rintro _ ⟨cs, rfl⟩
  have hnone : ([] : List UInt8).reverse ++ [] = encode [] := rfl
  exact readLiteralFrom_text (List.forall_mem_nil _) hnone

theorem OfText.skipBlanks {s : List UInt8} (h : OfText s) : OfText (skipBlanks s) :=
  h.rest (boundary_skipBlanks s)

section Nested

variable {item other : Reader Value} (hagree : Agree item other) (haligned : Aligned other)
include hagree

theorem agree_readMember : Agree (readMember .text item) (readMember .bytes other) := by
  intro s hs
  rw [readMember, readMember, agree_readLiteral s hs]
  cases hread : readLiteral .bytes s with
  | error f => rfl
  | ok p =>
    obtain ⟨key, s'⟩ := p
    have hs' := (hs.rest (aligned_readLiteral _ _ _ hread)).skipBlanks
    simp only [bind, Except.bind]
    split
    · rfl
    · next t ht =>
      rw [ht] at hs'
      rw [hagree t (hs'.rest (.ascii (by decide) t))]
    · rfl

include haligned

theorem agree_readItems (fuel : Nat) (done : List Value) :
    Agree (readItems item fuel done) (readItems other fuel done) := by
  induction fuel generalizing done with
  | zero => exact fun _ _ => rfl
  | succ fuel ih =>
    intro s hs
    rw [readItems, readItems, hagree s hs]
    cases hread : other s with
    | error f => rfl
    | ok p =>
      obtain ⟨v, s'⟩ := p
      have hs' := (hs.rest (haligned _ _ _ hread)).skipBlanks
      simp only
      split
      · rfl
      · rfl
      · next t ht =>
        rw [ht] at hs'
        have ht := (hs'.rest (.ascii (by decide) t)).skipBlanks
        split
        · rfl
        · rfl
        · exact ih _ _ ht
      · rfl

theorem agree_readArray : Agree (readArray item) (readArray other) := by
  intro s hs
  have hs' := hs.skipBlanks
  rw [readArray, readArray]
  split
  · rfl
  · rfl
  · exact agree_readItems hagree haligned _ _ _ hs'

theorem agree_readMembers (fuel : Nat) (done : List (String × Value)) :
    Agree (readMembers .text item fuel done) (readMembers .bytes other fuel done) := by
  induction fuel generalizing done with
  | zero => exact fun _ _ => rfl
  | succ fuel ih =>
    intro s hs
    rw [readMembers, readMembers, agree_readMember hagree s hs]
    cases hread : readMember .bytes other s with
    | error f => rfl
    | ok p =>
      obtain ⟨⟨key, value⟩, s'⟩ := p
      have hs' := (hs.rest (aligned_readMember haligned _ _ _ hread)).skipBlanks
      simp only
      split
      · rfl
      · rfl
      · next t ht =>
        rw [ht] at hs'
        have ht := (hs'.rest (.ascii (by decide) t)).skipBlanks
        split
        · rfl
        · next u hu =>
          rw [hu] at ht
          exact ih _ _ (ht.rest (.ascii (by decide) u))
        · rfl
        · rfl
      · rfl

theorem agree_readObject : Agree (readObject .text item) (readObject .bytes other) := by
  intro s hs
  have hs' := hs.skipBlanks
  rw [readObject, readObject]
  split
  · rfl
  · rfl
  · next t ht =>
    rw [ht] at hs'
    exact agree_readMembers hagree haligned _ _ _ (hs'.rest (.ascii (by decide) t))
  · rfl

end Nested

theorem agree_readWith {nested others : Option (Reader Value)}
    (h : Option.Rel (fun item other => Agree item other ∧ Aligned other) nested others) :
    Agree (readWith .text nested) (readWith .bytes others) := by
  intro s hs
  have hs' := hs.skipBlanks
  rw [readWith, readWith]
  split
  · rfl
  next b t ht =>
  rw [ht] at hs'
  split
  · rfl
  split
  · rfl
  split
  · rfl
  split
  · rfl
  split
  · rfl
  split
  · next hb => rw [agree_readLiteral t (hs'.rest (.ascii (hb ▸ by decide) t))]
  split
  · next hb =>
    have hlt : b < 0x80 := by rcases hb with rfl | rfl <;> decide
    have htail := hs'.rest (.ascii hlt t)
    cases h with
    | none => rfl
    | some h =>
      simp only
      split
      · exact agree_readArray h.1 h.2 t htail
      · exact agree_readObject h.1 h.2 t htail
  · rfl

theorem agree_readValue (levels : Nat) :
    Agree (readValue .text levels) (readValue .bytes levels) := by
  induction levels with
  | zero => exact agree_readWith .none
  | succ levels ih => exact agree_readWith (.some ⟨ih, aligned_readValue levels⟩)

/-! ### Documents -/

theorem parseValue_text {s : List UInt8} (h : OfText s) :
    parseValue .text s = parseValue .bytes s := by
  rw [parseValue, parseValue, agree_readValue maxDepth s h]

/-- A text is read as its bytes are, with the same fault if it is no document. -/
theorem Document.parseText_eq (text : String) :
    Document.parseText text = Document.parse (Text.bytes text) := by
  have hvalue := parseValue_text ⟨text.toList, (rfl : Text.bytes text = _)⟩
  rw [parseText, parse, read, read]
  split
  · next v hv =>
    rw [hvalue] at hv
    split
    · next w hw => exact congrArg Except.ok (Document.ext (Except.ok.inj (hv.symm.trans hw)))
    · next e he => exact absurd (hv.symm.trans he) (by simp)
  · next e he =>
    rw [hvalue] at he
    split
    · next w hw => exact absurd (he.symm.trans hw) (by simp)
    · next e' he' => rw [Except.error.inj (he.symm.trans he')]

end WindowGateway.Json
