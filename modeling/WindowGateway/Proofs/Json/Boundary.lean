import WindowGateway.Proofs.Except
import WindowGateway.Proofs.Json.RoundTrip
import WindowGateway.Proofs.Text.Boundary

/-! Documents are UTF-8. A reader of JSON looks at the encoding only inside string literals, and
there at the bytes with the escapes replaced; all the same, each reader goes from one boundary
between characters to another, so that bytes which are a document are UTF-8 from end to end. -/

namespace WindowGateway.Json

open Text.Utf8 (Boundary Continues encode encodeChar encodeChar_cons encodeChar_decoded_one
  encodeChar_prefix_unique encode_append encode_cons decode_eq_ok_iff)

/-- The reader takes whole characters. -/
def Aligned {α : Type} (read : List UInt8 → Except Fault (α × List UInt8)) : Prop :=
  ∀ s a rest, read s = .ok (a, rest) → Boundary s rest

/-! ### Blanks, keywords and numbers -/

theorem lt_of_isBlankByte (b : UInt8) (h : isBlankByte b = true) : b < 0x80 := by
  simp only [isBlankByte, Bool.or_eq_true, beq_iff_eq] at h
  rcases h with ((rfl | rfl) | rfl) | rfl <;> decide

theorem lt_of_isDigit (b : UInt8) (h : isDigit b = true) : b < 0x80 := by
  simp only [isDigit, Bool.and_eq_true, decide_eq_true_eq] at h
  exact UInt8.lt_of_le_of_lt h.2 (by decide)

theorem boundary_skipBlanks (s : List UInt8) : Boundary s (skipBlanks s) :=
  .dropWhile lt_of_isBlankByte s

theorem boundary_readKeyword {ks s rest : List UInt8} (hks : ∀ k ∈ ks, k < 0x80)
    (h : readKeyword ks s = .ok rest) : Boundary s rest := by
  induction ks generalizing s with
  | nil =>
    obtain rfl : s = rest := Except.ok.inj h
    exact .refl s
  | cons k ks ih =>
    rw [List.forall_mem_cons] at hks
    cases s with
    | nil => cases h
    | cons b s =>
      rw [readKeyword] at h
      split at h
      · next hb => exact .cons (hb ▸ hks.1) (ih hks.2 h)
      · cases h

theorem boundary_exponentDigits (value : Nat) (s : List UInt8) :
    Boundary s (exponentDigits value s).2 := by
  induction s generalizing value with
  | nil => exact .refl _
  | cons b s ih =>
    rw [exponentDigits]
    split
    · next hb =>
      split
      · exact .cons (lt_of_isDigit b hb) (ih _)
      · exact .ascii (lt_of_isDigit b hb) s
    · exact .refl _

section Numbers

variable {negative : Bool} {significand : Nat} {exponent : Int}

theorem aligned_scaled : Aligned (scaled negative significand exponent) := by
  intro s n rest h
  rw [scaled] at h
  split at h
  · cases h
    exact .refl s
  · cases h

theorem aligned_readExponent : Aligned (readExponent negative significand exponent) := by
  intro s n rest h
  unfold readExponent at h
  split at h
  next down digits hsign =>
  have hs : Boundary s digits := by
    split at hsign
    all_goals obtain ⟨-, rfl⟩ := Prod.mk.inj hsign
    · exact .ascii (by decide) _
    · exact .ascii (by decide) _
    · exact .refl _
  split at h
  · cases h
  next b tail =>
  split at h
  · have hdigits := hs.trans (boundary_exponentDigits 0 (b :: tail))
    split at h
    · next e after he =>
      rw [he] at hdigits
      exact hdigits.trans (aligned_scaled _ _ _ h)
    · next after he =>
      rw [he] at hdigits
      split at h
      · cases h
      · have hafter : Boundary after (after.dropWhile isDigit) := .dropWhile lt_of_isDigit after
        exact (hdigits.trans hafter).trans (aligned_scaled _ _ _ h)
  · cases h

theorem aligned_readPower : Aligned (readPower negative significand exponent) := by
  intro s n rest h
  unfold readPower at h
  split at h
  · exact .cons (by decide) (aligned_readExponent _ _ _ h)
  · exact .cons (by decide) (aligned_readExponent _ _ _ h)
  · exact aligned_scaled _ _ _ h

theorem aligned_readScaled : Aligned (readScaled negative significand exponent) := by
  intro s n rest h
  unfold readScaled at h
  split at h
  · next s =>
    simp only at h
    split at h
    · cases h
    · have hdigits : Boundary s (s.dropWhile isDigit) := .dropWhile lt_of_isDigit s
      exact .cons (by decide) (hdigits.trans (aligned_readPower _ _ _ h))
  · exact aligned_readPower _ _ _ h

theorem aligned_readAfterInteger (value : Nat) : Aligned (readAfterInteger negative value) := by
  intro s n rest h
  rw [readAfterInteger] at h
  split at h
  · exact aligned_readScaled _ _ _ h
  split at h
  · exact aligned_scaled _ _ _ h
  split at h
  · cases h
    exact .refl s
  · exact aligned_scaled _ _ _ h

theorem aligned_readNumber : Aligned (readNumber negative) := by
  intro s n rest h
  unfold readNumber at h
  split at h
  · cases h
  · split at h
    · cases h
    · exact .cons (by decide) (aligned_readAfterInteger _ _ _ _ h)
  · next b s _ =>
    simp only at h
    split at h
    · have hdigits : Boundary (b :: s) ((b :: s).dropWhile isDigit) :=
        .dropWhile lt_of_isDigit _
      split at h
      · exact hdigits.trans (aligned_readAfterInteger _ _ _ _ h)
      · exact hdigits.trans (aligned_readScaled _ _ _ h)
    · cases h

end Numbers

/-! ### String literals -/

theorem lt_of_hexValue? {b : UInt8} {n : Nat} (h : hexValue? b = some n) : b < 0x80 := by
  rw [hexValue?] at h
  split at h
  · next hb => exact UInt8.lt_of_le_of_lt hb.2 (by decide)
  split at h
  · next hb => exact UInt8.lt_of_le_of_lt hb.2 (by decide)
  split at h
  · next hb => exact UInt8.lt_of_le_of_lt hb.2 (by decide)
  · cases h

theorem aligned_readCodeUnit : Aligned readCodeUnit := by
  intro s n rest h
  unfold readCodeUnit at h
  split at h
  · split at h
    · next ha hb hc hd =>
      cases h
      exact .cons (lt_of_hexValue? ha) (.cons (lt_of_hexValue? hb) (.cons (lt_of_hexValue? hc)
        (.ascii (lt_of_hexValue? hd) _)))
    · cases h
  · cases h

theorem encodeChar_ascii {b : UInt8} (h : b < 0x80) : ∃ c, [b] = encodeChar c :=
  ⟨_, (encodeChar_decoded_one (UInt8.lt_iff_toNat_lt.mp h)).symm⟩

/-- A second code unit is asked for after the first of a surrogate pair only, and the escapes of
both are ASCII. -/
theorem readUnicode_takes {s bytes rest : List UInt8} (h : readUnicode s = .ok (bytes, rest)) :
    (∃ c, bytes = encodeChar c) ∧ Boundary s rest := by
  rw [readUnicode] at h
  cases hhigh : readCodeUnit s with
  | error f =>
    rw [hhigh] at h
    cases h
  | ok r =>
    obtain ⟨high, t⟩ := r
    have hs := aligned_readCodeUnit _ _ _ hhigh
    simp only [hhigh, bind, Except.bind] at h
    split at h
    · cases h
    split at h
    · cases h
      exact ⟨⟨_, rfl⟩, hs⟩
    split at h
    · cases h
    · cases h
    · next s' =>
      have hescape : Boundary (0x5C :: 0x75 :: s') s' := .cons (by decide) (.ascii (by decide) _)
      cases hlow : readCodeUnit s' with
      | error f =>
        rw [hlow] at h
        cases h
      | ok r =>
        obtain ⟨low, u⟩ := r
        have hs' := aligned_readCodeUnit _ _ _ hlow
        simp only [hlow] at h
        split at h
        · obtain ⟨rfl, rfl⟩ := Prod.mk.inj (Except.ok.inj h)
          exact ⟨⟨_, rfl⟩, (hs.trans hescape).trans hs'⟩
        · cases h
    · cases h
    · cases h

theorem takes_of_short {b x : UInt8} {s bytes rest : List UInt8} (hb : b < 0x80) (hx : x < 0x80)
    (h : (Except.ok ([x], s) : Except Fault _) = .ok (bytes, rest)) :
    (∃ c, bytes = encodeChar c) ∧ Boundary (b :: s) rest := by
  obtain ⟨rfl, rfl⟩ := Prod.mk.inj (Except.ok.inj h)
  exact ⟨encodeChar_ascii hx, .ascii hb _⟩

theorem readEscape_takes {s bytes rest : List UInt8} (h : readEscape s = .ok (bytes, rest)) :
    (∃ c, bytes = encodeChar c) ∧ Boundary s rest := by
  cases s with
  | nil => cases h
  | cons b s =>
    rw [readEscape] at h
    split at h
    · next hb =>
      have hlt : b < 0x80 := by rcases hb with rfl | rfl | rfl <;> decide
      exact takes_of_short hlt hlt h
    split at h
    · next hb => exact takes_of_short (hb ▸ by decide) (by decide) h
    split at h
    · next hb => exact takes_of_short (hb ▸ by decide) (by decide) h
    split at h
    · next hb => exact takes_of_short (hb ▸ by decide) (by decide) h
    split at h
    · next hb => exact takes_of_short (hb ▸ by decide) (by decide) h
    split at h
    · next hb => exact takes_of_short (hb ▸ by decide) (by decide) h
    split at h
    · next hb =>
      obtain ⟨hc, hs⟩ := readUnicode_takes h
      exact ⟨hc, .cons (hb ▸ by decide) hs⟩
    · cases h

/-- The bytes inside a literal, and the bytes that they stand for: a byte for itself, or an escape
for a character. -/
inductive BodyBytes : List UInt8 → List UInt8 → Prop
  | nil : BodyBytes [] []
  | plain {b : UInt8} {raw out : List UInt8} (tail : BodyBytes raw out) :
    BodyBytes (b :: raw) (b :: out)
  | escape {cs : List Char} {c : Char} {raw out : List UInt8} (tail : BodyBytes raw out) :
    BodyBytes (encode cs ++ raw) (encodeChar c ++ out)

theorem bodyBytes_of_readLiteralFrom {fuel : Nat} {done s rest : List UInt8} {text : String}
    (h : readLiteralFrom .bytes fuel done s = .ok (text, rest)) :
    ∃ raw out cs, s = raw ++ 0x22 :: rest ∧ BodyBytes raw out ∧
      done.reverse ++ out = encode cs := by
  induction fuel generalizing done s with
  | zero => cases s <;> cases h
  | succ fuel ih =>
    cases s with
    | nil => cases h
    | cons b s =>
      rw [readLiteralFrom] at h
      split at h
      · next hb =>
        split at h
        · next text' htext =>
          obtain ⟨rfl, rfl⟩ := Prod.mk.inj (Except.ok.inj h)
          obtain ⟨cs, hcs, -⟩ := map_eq_ok_iff.mp htext
          refine ⟨[], [], cs, by rw [hb]; rfl, .nil, ?_⟩
          rw [List.append_nil]
          exact decode_eq_ok_iff.mp hcs
        · cases h
      split at h
      · next hb =>
        split at h
        · next bytes s' hescape =>
          obtain ⟨⟨c, rfl⟩, hs⟩ := readEscape_takes hescape
          obtain ⟨ds, hds⟩ := hs.cons (b := 0x5C) (by decide)
          obtain ⟨raw, out, cs, rfl, hbody, hout⟩ := ih h
          refine ⟨encode ds ++ raw, encodeChar c ++ out, cs, ?_, .escape hbody, ?_⟩
          · rw [hb, hds, List.append_assoc]
          · rw [← hout, List.reverse_append, List.reverse_reverse, List.append_assoc]
        · cases h
      split at h
      · cases h
      · obtain ⟨raw, out, cs, rfl, hbody, hout⟩ := ih h
        refine ⟨b :: raw, b :: out, cs, rfl, .plain hbody, ?_⟩
        rw [← hout, List.reverse_cons, List.append_assoc, List.singleton_append]

/-- No escape stands for bytes that continue a character. -/
theorem BodyBytes.continued {raw ks out : List UInt8} (hks : ∀ k ∈ ks, Continues k)
    (h : BodyBytes raw (ks ++ out)) : ∃ tail, raw = ks ++ tail ∧ BodyBytes tail out := by
  induction ks generalizing raw with
  | nil => exact ⟨raw, rfl, h⟩
  | cons k ks ih =>
    rw [List.forall_mem_cons] at hks
    generalize hall : k :: ks ++ out = all at h
    cases h with
    | nil => cases hall
    | plain tail =>
      obtain ⟨rfl, rfl⟩ := List.cons.inj hall
      obtain ⟨raw, rfl, hraw⟩ := ih hks.2 tail
      exact ⟨raw, rfl, hraw⟩
    | @escape _ c =>
      obtain ⟨lead, _, hc, hlead, _⟩ := encodeChar_cons c
      rw [hc] at hall
      obtain rfl := (List.cons.inj hall).1
      exact absurd hks.1 hlead

/-- Where a body stands for whole characters, it consists of them: what continues a character is
written out behind the byte that it continues. -/
theorem BodyBytes.characters {raw : List UInt8} {cs : List Char} (h : BodyBytes raw (encode cs)) :
    ∃ ds, raw = encode ds := by
  induction cs generalizing raw with
  | nil =>
    generalize hall : encode [] = all at h
    cases h with
    | nil => exact ⟨[], rfl⟩
    | plain => cases hall
    | @escape _ c =>
      obtain ⟨_, _, hc, _⟩ := encodeChar_cons c
      rw [hc] at hall
      cases hall
  | cons d cs ih =>
    rw [encode_cons] at h
    generalize hall : encodeChar d ++ encode cs = all at h
    cases h with
    | nil =>
      obtain ⟨_, _, hd, _⟩ := encodeChar_cons d
      rw [hd] at hall
      cases hall
    | @plain b raw out tail =>
      obtain ⟨lead, ks, hd, _, hks⟩ := encodeChar_cons d
      rw [hd] at hall
      obtain ⟨rfl, rfl⟩ := List.cons.inj hall
      obtain ⟨raw, rfl, hraw⟩ := tail.continued hks
      obtain ⟨ds, rfl⟩ := ih hraw
      exact ⟨d :: ds, by rw [encode_cons, hd]; rfl⟩
    | @escape es c raw out tail =>
      obtain ⟨rfl, rfl⟩ := encodeChar_prefix_unique hall
      obtain ⟨ds, rfl⟩ := ih tail
      exact ⟨es ++ ds, (encode_append es ds).symm⟩

theorem aligned_readLiteral : Aligned (readLiteral .bytes) := by
  intro s text rest h
  obtain ⟨raw, out, cs, rfl, hbody, hout⟩ := bodyBytes_of_readLiteralFrom h
  rw [List.reverse_nil, List.nil_append] at hout
  subst hout
  obtain ⟨ds, rfl⟩ := hbody.characters
  exact .trans ⟨ds, rfl⟩ (.ascii (by decide) rest)

/-! ### Arrays and objects -/

section Nested

variable {item : Reader Value} (hitem : Aligned item)
include hitem

theorem aligned_readItems (fuel : Nat) (done : List Value) :
    Aligned (readItems item fuel done) := by
  induction fuel generalizing done with
  | zero =>
    intro s v rest h
    cases h
  | succ fuel ih =>
    intro s v rest h
    rw [readItems] at h
    split at h
    · cases h
    next w s' hw =>
    have hs := (hitem _ _ _ hw).trans (boundary_skipBlanks s')
    split at h
    · cases h
    · next t ht =>
      cases h
      rw [ht] at hs
      exact hs.trans (.ascii (by decide) _)
    · next t ht =>
      rw [ht] at hs
      have hcomma := (hs.trans (.ascii (by decide) _)).trans (boundary_skipBlanks t)
      split at h
      · cases h
      · cases h
      · exact hcomma.trans (ih _ _ _ _ h)
    · cases h

theorem aligned_readArray : Aligned (readArray item) := by
  intro s v rest h
  have hs := boundary_skipBlanks s
  rw [readArray] at h
  split at h
  · cases h
  · next t ht =>
    cases h
    rw [ht] at hs
    exact hs.trans (.ascii (by decide) _)
  · exact hs.trans (aligned_readItems hitem _ _ _ _ _ h)

theorem aligned_readMember : Aligned (readMember .bytes item) := by
  intro s m rest h
  rw [readMember] at h
  cases hl : readLiteral .bytes s with
  | error f =>
    rw [hl] at h
    cases h
  | ok r =>
    obtain ⟨key, s'⟩ := r
    have hs := (aligned_readLiteral _ _ _ hl).trans (boundary_skipBlanks s')
    simp only [hl, bind, Except.bind] at h
    split at h
    · cases h
    · next t ht =>
      rw [ht] at hs
      have hcolon := hs.trans (.ascii (by decide) t)
      cases hv : item t with
      | error f =>
        rw [hv] at h
        cases h
      | ok r =>
        rw [hv] at h
        cases h
        exact hcolon.trans (hitem _ _ _ hv)
    · cases h

theorem aligned_readMembers (fuel : Nat) (done : List (String × Value)) :
    Aligned (readMembers .bytes item fuel done) := by
  induction fuel generalizing done with
  | zero =>
    intro s v rest h
    cases h
  | succ fuel ih =>
    intro s v rest h
    rw [readMembers] at h
    split at h
    · cases h
    next key value s' hm =>
    have hs := (aligned_readMember hitem _ _ _ hm).trans (boundary_skipBlanks s')
    split at h
    · cases h
    · next t ht =>
      cases h
      rw [ht] at hs
      exact hs.trans (.ascii (by decide) _)
    · next t ht =>
      rw [ht] at hs
      have hcomma := (hs.trans (.ascii (by decide) _)).trans (boundary_skipBlanks t)
      split at h
      · cases h
      · next u hu =>
        rw [hu] at hcomma
        exact (hcomma.trans (.ascii (by decide) _)).trans (ih _ _ _ _ h)
      · cases h
      · cases h
    · cases h

theorem aligned_readObject : Aligned (readObject .bytes item) := by
  intro s v rest h
  have hs := boundary_skipBlanks s
  rw [readObject] at h
  split at h
  · cases h
  · next t ht =>
    cases h
    rw [ht] at hs
    exact hs.trans (.ascii (by decide) _)
  · next t ht =>
    rw [ht] at hs
    exact (hs.trans (.ascii (by decide) _)).trans (aligned_readMembers hitem _ _ _ _ _ h)
  · cases h

end Nested

/-! ### Documents -/

/-- A keyword, after the letter that tells it. -/
theorem boundary_keyword {b : UInt8} {ks t rest : List UInt8} {u v : Value} (hb : b < 0x80)
    (hks : ks.all (· < 0x80) = true) (h : (readKeyword ks t).map (u, ·) = .ok (v, rest)) :
    Boundary (b :: t) rest := by
  obtain ⟨t', hread, hv⟩ := map_eq_ok_iff.mp h
  obtain ⟨-, rfl⟩ := Prod.mk.inj hv
  simp only [List.all_eq_true, decide_eq_true_eq] at hks
  exact .cons hb (boundary_readKeyword hks hread)

theorem Aligned.map {α : Type} {read : List UInt8 → Except Fault (α × List UInt8)}
    (hread : Aligned read) {f : α → Value} {t rest : List UInt8} {v : Value}
    (h : (read t).map (fun (a, s) => (f a, s)) = .ok (v, rest)) : Boundary t rest := by
  obtain ⟨⟨a, t'⟩, ha, hv⟩ := map_eq_ok_iff.mp h
  obtain ⟨-, rfl⟩ := Prod.mk.inj hv
  exact hread _ _ _ ha

theorem aligned_readWith {nested : Option (Reader Value)}
    (hnested : ∀ item ∈ nested, Aligned item) : Aligned (readWith .bytes nested) := by
  intro s v rest h
  rw [readWith] at h
  have hs := boundary_skipBlanks s
  split at h
  · cases h
  next b t hb =>
  rw [hb] at hs
  refine hs.trans ?_
  split at h
  · next hb => exact boundary_keyword (hb ▸ by decide) (by decide) h
  split at h
  · next hb => exact boundary_keyword (hb ▸ by decide) (by decide) h
  split at h
  · next hb => exact boundary_keyword (hb ▸ by decide) (by decide) h
  split at h
  · next hb => exact .cons (hb ▸ by decide) (aligned_readNumber.map h)
  split at h
  · exact aligned_readNumber.map h
  split at h
  · next hb => exact .cons (hb ▸ by decide) (aligned_readLiteral.map h)
  split at h
  · next hb =>
    have hlt : b < 0x80 := by rcases hb with rfl | rfl <;> decide
    split at h
    · cases h
    next item =>
    have hitem : Aligned item := hnested item rfl
    split at h
    · exact .cons hlt (aligned_readArray hitem _ _ _ h)
    · exact .cons hlt (aligned_readObject hitem _ _ _ h)
  · cases h

theorem aligned_readValue (levels : Nat) : Aligned (readValue .bytes levels) := by
  induction levels with
  | zero => exact aligned_readWith fun item hitem => by cases hitem
  | succ levels ih =>
    refine aligned_readWith fun item hitem => ?_
    obtain rfl : readValue .bytes levels = item := Option.some.inj hitem
    exact ih

/-- What can be read as a document is UTF-8. -/
theorem Document.utf8_of_parse {s : List UInt8} {d : Document} (h : Document.parse s = .ok d) :
    ∃ cs, Text.Utf8.decode s = .ok cs := by
  rw [Document.parse, Document.read_eq_ok_iff, parseValue] at h
  split at h
  · cases h
  next v rest hread =>
  have hs := (aligned_readValue _ _ _ _ hread).trans (boundary_skipBlanks rest)
  split at h
  · next hend =>
    rw [hend] at hs
    obtain ⟨cs, hcs⟩ := hs
    rw [List.append_nil] at hcs
    exact ⟨cs, decode_eq_ok_iff.mpr hcs⟩
  · cases h

end WindowGateway.Json
