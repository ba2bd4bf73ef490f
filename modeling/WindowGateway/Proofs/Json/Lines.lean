import Mathlib.Data.List.Forall2
import WindowGateway.Json.Lines
import WindowGateway.Proofs.Except
import WindowGateway.Proofs.Json.Text

/-! JSON lines. The compact text of a document is one line that is not blank, whatever its strings
hold; and the documents of lines are those of the lines that are not blank, up to the first of these
that is not a document. -/

namespace WindowGateway.Json

/-! ### The text of a document -/

/-- No control character, so no line break, is among the characters. -/
def Printable (cs : List Char) : Prop := ∀ c ∈ cs, 0x20 ≤ c.toNat

instance (cs : List Char) : Decidable (Printable cs) :=
  decidable_of_iff (cs.all fun c => 0x20 ≤ c.toNat) (by simp [Printable])

@[simp] theorem printable_nil : Printable [] := by simp [Printable]

@[simp] theorem printable_cons {c : Char} {cs : List Char} :
    Printable (c :: cs) ↔ 0x20 ≤ c.toNat ∧ Printable cs := by simp [Printable]

@[simp] theorem printable_append {cs ds : List Char} :
    Printable (cs ++ ds) ↔ Printable cs ∧ Printable ds := by
  simp [Printable, or_imp, forall_and]

theorem Printable.sublist {cs ds : List Char} (h : Printable ds) (hs : cs.Sublist ds) :
    Printable cs := fun c hc => h c (hs.subset hc)

theorem Printable.not_mem {cs : List Char} (h : Printable cs) {c : Char} (hc : c.toNat < 0x20) :
    c ∉ cs := fun hmem => Nat.not_lt.mpr (h c hmem) hc

/-- Some character is not blank. -/
def Filled (cs : List Char) : Prop := ∃ c ∈ cs, Text.isBlank c = false

theorem filled_cons {c : Char} (h : Text.isBlank c = false) (cs : List Char) : Filled (c :: cs) :=
  ⟨c, List.mem_cons_self, h⟩

theorem Filled.append_left {cs : List Char} (h : Filled cs) (ds : List Char) :
    Filled (ds ++ cs) := by
  obtain ⟨c, hc, hb⟩ := h
  exact ⟨c, List.mem_append_right _ hc, hb⟩

/-! #### Numbers -/

theorem digit_cases {c : Char} (h : c.isDigit = true) : 0x30 ≤ c.toNat ∧ c.toNat ≤ 0x39 := by
  rw [Char.isDigit, Bool.and_eq_true, decide_eq_true_eq, decide_eq_true_eq] at h
  exact h

theorem isBlank_of_isDigit {c : Char} (h : c.isDigit = true) : Text.isBlank c = false := by
  have hc := digit_cases h
  simp only [Text.isBlank, Bool.or_eq_false_iff, Bool.and_eq_false_iff, decide_eq_false_iff_not,
    beq_eq_false_iff_ne]
  omega

theorem isDigit_of_mem_naturalChars {n : Nat} {c : Char} (h : c ∈ naturalChars n) :
    c.isDigit = true := Nat.isDigit_of_mem_toDigits (by decide) (by decide) h

theorem printable_naturalChars (n : Nat) : Printable (naturalChars n) := fun _ hc =>
  Nat.le_trans (by decide) (digit_cases (isDigit_of_mem_naturalChars hc)).1

theorem filled_naturalChars (n : Nat) : Filled (naturalChars n) := by
  obtain ⟨c, cs, h⟩ := List.exists_cons_of_ne_nil (Nat.toDigits_ne_nil (n := n) (b := 10))
  have hmem : c ∈ naturalChars n := by
    rw [naturalChars, h]
    exact List.mem_cons_self
  exact ⟨c, hmem, isBlank_of_isDigit (isDigit_of_mem_naturalChars hmem)⟩

theorem printable_zeros (n : Nat) : Printable (List.replicate n '0') := fun c hc => by
  rw [List.eq_of_mem_replicate hc]
  decide

theorem printable_decimalChars {digits : List Char} (h : Printable digits) (leading : Int) :
    Printable (decimalChars digits leading) := by
  have htake := fun n => h.sublist (List.take_sublist n digits)
  have hdrop := fun n => h.sublist (List.drop_sublist n digits)
  rw [decimalChars]
  split
  · have hsign : 0x20 ≤ (if leading < 0 then '-' else '+').toNat := by split <;> decide
    have hpoint : Printable (if digits.length ≤ 1 then digits
        else digits.take 1 ++ '.' :: digits.drop 1) := by
      split
      · exact h
      · exact printable_append.mpr ⟨htake 1, printable_cons.mpr ⟨by decide, hdrop 1⟩⟩
    exact printable_append.mpr ⟨hpoint, printable_cons.mpr ⟨by decide,
      printable_cons.mpr ⟨hsign, printable_naturalChars _⟩⟩⟩
  · split
    · simp [h, printable_zeros]
    · dsimp only
      split
      · simp [h, printable_zeros]
      · simp [htake, hdrop]

theorem filled_decimalChars (digits : List Char) (leading : Int) :
    Filled (decimalChars digits leading) := by
  rw [decimalChars]
  split
  · exact (filled_cons (c := 'e') rfl _).append_left _
  · split
    · exact filled_cons (c := '0') rfl _
    · dsimp only
      split
      · exact (filled_cons (c := '.') rfl _).append_left _
      · exact (filled_cons (c := '.') rfl _).append_left _

theorem printable_binary64Chars (x : Binary64) : Printable (binary64Chars x) := by
  rw [binary64Chars]
  split
  · decide
  · exact printable_decimalChars (printable_naturalChars _) _

theorem filled_binary64Chars (x : Binary64) : Filled (binary64Chars x) := by
  rw [binary64Chars]
  split
  · exact filled_cons (c := '0') rfl _
  · exact filled_decimalChars _ _

theorem printable_number (n : Number) : Printable n.chars := by
  cases n with
  | integer value _ =>
    cases value with
    | ofNat n => exact printable_naturalChars n
    | negSucc n => exact printable_cons.mpr ⟨by decide, printable_naturalChars (n + 1)⟩
  | real negative magnitude =>
    refine printable_append.mpr ⟨?_, printable_binary64Chars magnitude⟩
    cases negative <;> decide

theorem filled_number (n : Number) : Filled n.chars := by
  cases n with
  | integer value _ =>
    cases value with
    | ofNat n => exact filled_naturalChars n
    | negSucc n => exact filled_cons (c := '-') rfl _
  | real negative magnitude => exact (filled_binary64Chars magnitude).append_left _

/-! #### Strings -/

theorem printable_escapeChar (c : Char) : Printable (escapeChar c) := by
  rw [escapeChar]
  split
  · next h => rcases h with rfl | rfl <;> decide
  split; · decide
  split; · decide
  split; · decide
  split; · decide
  split; · decide
  split
  · have hdigit : ∀ k : Fin 16, 0x20 ≤ (Nat.digitChar k).toNat := by decide
    have hhigh := hdigit ⟨c.toNat / 16, by omega⟩
    have hlow := hdigit ⟨c.toNat % 16, by omega⟩
    simp [hhigh, hlow]
  · next h => simpa using h

theorem printable_literal (s : String) : Printable (literal s) := by
  have hbody : Printable (s.toList.flatMap escapeChar) := fun c hc => by
    obtain ⟨d, _, hd⟩ := List.mem_flatMap.mp hc
    exact printable_escapeChar d c hd
  simp [literal, hbody]

/-! #### Values -/

namespace Value

mutual

theorem printable_chars : ∀ v : Value, Printable v.chars
  | null | bool true | bool false => by rw [chars]; decide
  | number n => by
    rw [chars]
    exact printable_number n
  | string s => by
    rw [chars]
    exact printable_literal s
  | array items => by
    rw [chars]
    simp [printable_itemsChars items]
  | object members => by
    rw [chars]
    simp [printable_membersChars members]

theorem printable_itemsChars : ∀ vs : List Value, Printable (itemsChars vs)
  | [] => by
    rw [itemsChars]
    exact printable_nil
  | [v] => by
    rw [itemsChars]
    exact printable_chars v
  | v :: w :: vs => by
    rw [itemsChars]
    · simp [printable_chars v, printable_itemsChars (w :: vs)]
    · simp

theorem printable_membersChars : ∀ ms : List (String × Value), Printable (membersChars ms)
  | [] => by
    rw [membersChars]
    exact printable_nil
  | [(key, v)] => by
    rw [membersChars]
    simp [printable_literal key, printable_chars v]
  | (key, v) :: m :: ms => by
    rw [membersChars]
    · simp [printable_literal key, printable_chars v, printable_membersChars (m :: ms)]
    · simp

end

theorem filled_chars (v : Value) : Filled v.chars := by
  cases v with
  | null => exact filled_cons (c := 'n') rfl _
  | bool b => cases b <;> exact filled_cons rfl _
  | number n => exact filled_number n
  | string s => exact filled_cons (c := '"') rfl _
  | array items => exact filled_cons (c := '[') rfl _
  | object members => exact filled_cons (c := '\x7b') rfl _

end Value

/-- Nothing in the text of a document ends a line, and nothing before its end is lost. -/
theorem Document.printable_render (d : Document) : Printable d.render.toList := by
  rw [render, String.toList_ofList]
  exact d.value.printable_chars

theorem Document.allBlank_render (d : Document) : Text.allBlank d.render = false := by
  obtain ⟨c, hc, hb⟩ := d.value.filled_chars
  rw [Text.allBlank, render, String.toList_ofList, List.all_eq_false]
  exact ⟨c, hc, by simp [hb]⟩

theorem Document.bytes_render (d : Document) : Text.bytes d.render = d.bytes := by
  rw [Text.bytes, render, String.toList_ofList, bytes]

/-! ### Documents of lines -/

/-- The line is the text of the document. -/
def LineHolds (line : String) (d : Document) : Prop := Document.parse (Text.bytes line) = .ok d

/-- The lines that are not blank. -/
def filledLines (lines : List String) : List String := lines.filter fun line => !Text.allBlank line

/-- The fault of the first line that is neither blank nor a document; the first of all lines has the
given number. -/
inductive FirstBadLine (number : Nat) (lines : List String) : LineFault → Prop
  | mk {before after : List String} {line : String} {e : ParseError}
      (split : lines = before ++ line :: after) (filled : Text.allBlank line = false)
      (bad : Document.parse (Text.bytes line) = .error e)
      (first : ∀ l ∈ before, Text.allBlank l = true ∨ ∃ d, LineHolds l d) :
    FirstBadLine number lines ⟨number + before.length, e⟩

variable {number : Nat} {line : String} {lines : List String} {docs : List Document}

theorem filledLines_blank (h : Text.allBlank line = true) :
    filledLines (line :: lines) = filledLines lines := by
  rw [filledLines, List.filter_cons, h]
  rfl

theorem filledLines_filled (h : Text.allBlank line = false) :
    filledLines (line :: lines) = line :: filledLines lines := by
  rw [filledLines, List.filter_cons, h]
  rfl

theorem parseNumbered_blank (h : Text.allBlank line = true) :
    parseNumbered number (line :: lines) = parseNumbered (number + 1) lines := by
  rw [parseNumbered, if_pos h]

theorem parseNumbered_holds (h : Text.allBlank line = false) {d : Document}
    (hd : LineHolds line d) :
    parseNumbered number (line :: lines) = (parseNumbered (number + 1) lines).map (d :: ·) := by
  rw [parseNumbered, if_neg (by simp [h]), Document.parseText_eq, hd]

theorem parseNumbered_bad (h : Text.allBlank line = false) {e : ParseError}
    (he : Document.parse (Text.bytes line) = .error e) :
    parseNumbered number (line :: lines) = .error ⟨number, e⟩ := by
  rw [parseNumbered, if_neg (by simp [h]), Document.parseText_eq, he]

theorem parseNumbered_eq_ok_iff :
    parseNumbered number lines = .ok docs ↔ List.Forall₂ LineHolds (filledLines lines) docs := by
  induction lines generalizing number docs with
  | nil =>
    rw [filledLines, List.filter_nil, List.forall₂_nil_left_iff, parseNumbered, Except.ok.injEq,
      eq_comm]
  | cons line lines ih =>
    cases hblank : Text.allBlank line with
    | true => rw [parseNumbered_blank hblank, filledLines_blank hblank, ih]
    | false =>
      rw [filledLines_filled hblank, List.forall₂_cons_left_iff]
      cases hd : Document.parse (Text.bytes line) with
      | error e =>
        rw [parseNumbered_bad hblank hd]
        simp [LineHolds, hd]
      | ok d =>
        rw [parseNumbered_holds hblank hd, map_eq_ok_iff]
        simp only [LineHolds, hd, Except.ok.injEq]
        constructor
        · rintro ⟨rest, hrest, rfl⟩
          exact ⟨d, rest, rfl, ih.mp hrest, rfl⟩
        · rintro ⟨_, rest, rfl, hrest, rfl⟩
          exact ⟨rest, ih.mpr hrest, rfl⟩

theorem firstBadLine_nil {fault : LineFault} : ¬FirstBadLine number [] fault := by
  rintro ⟨hsplit⟩
  exact List.cons_ne_nil _ _ (List.append_eq_nil_iff.mp hsplit.symm).2

/-- A line that is blank or a document is passed over. -/
theorem firstBadLine_cons {fault : LineFault}
    (h : Text.allBlank line = true ∨ ∃ d, LineHolds line d) :
    FirstBadLine number (line :: lines) fault ↔ FirstBadLine (number + 1) lines fault := by
  constructor
  · rintro @⟨before, after, l, e, hsplit, hfilled, hbad, hfirst⟩
    cases before with
    | nil =>
      obtain ⟨rfl, rfl⟩ := List.cons.inj hsplit
      rcases h with h | ⟨d, hd⟩
      · rw [h] at hfilled
        cases hfilled
      · rw [LineHolds, hbad] at hd
        cases hd
    | cons b before =>
      obtain ⟨rfl, rfl⟩ := List.cons.inj hsplit
      rw [List.length_cons, Nat.add_comm before.length, ← Nat.add_assoc]
      exact .mk rfl hfilled hbad fun u hu => hfirst u (List.mem_cons_of_mem _ hu)
  · rintro @⟨before, after, l, e, rfl, hfilled, hbad, hfirst⟩
    have hpassed : ∀ u ∈ line :: before, Text.allBlank u = true ∨ ∃ d, LineHolds u d :=
      List.forall_mem_cons.mpr ⟨h, hfirst⟩
    have hcons : FirstBadLine number (line :: (before ++ l :: after))
        ⟨number + (line :: before).length, e⟩ := .mk rfl hfilled hbad hpassed
    rwa [List.length_cons, Nat.add_comm before.length, ← Nat.add_assoc] at hcons

/-- A line that is neither is the first bad one. -/
theorem firstBadLine_of_bad {fault : LineFault} (h : Text.allBlank line = false) {e : ParseError}
    (he : Document.parse (Text.bytes line) = .error e) :
    FirstBadLine number (line :: lines) fault ↔ fault = ⟨number, e⟩ := by
  constructor
  · rintro @⟨before, after, l, e', hsplit, hfilled, hbad, hfirst⟩
    cases before with
    | nil =>
      obtain ⟨rfl, rfl⟩ := List.cons.inj hsplit
      obtain rfl := Except.error.inj (he.symm.trans hbad)
      rfl
    | cons b before =>
      obtain ⟨rfl, rfl⟩ := List.cons.inj hsplit
      rcases hfirst line List.mem_cons_self with hblank | ⟨d, hd⟩
      · rw [h] at hblank
        cases hblank
      · rw [LineHolds, he] at hd
        cases hd
  · rintro rfl
    have hnone : ∀ l ∈ ([] : List String), Text.allBlank l = true ∨ ∃ d, LineHolds l d := by simp
    exact .mk (List.nil_append _).symm h he hnone

theorem parseNumbered_eq_error_iff {fault : LineFault} :
    parseNumbered number lines = .error fault ↔ FirstBadLine number lines fault := by
  induction lines generalizing number with
  | nil =>
    rw [parseNumbered]
    constructor
    · intro h
      cases h
    · exact fun h => absurd h firstBadLine_nil
  | cons line lines ih =>
    cases hblank : Text.allBlank line with
    | true => rw [parseNumbered_blank hblank, firstBadLine_cons (.inl hblank), ih]
    | false =>
      cases hd : Document.parse (Text.bytes line) with
      | ok d =>
        rw [parseNumbered_holds hblank hd, firstBadLine_cons (.inr ⟨d, hd⟩), ← ih]
        cases parseNumbered (number + 1) lines <;> simp [Except.map]
      | error e =>
        rw [parseNumbered_bad hblank hd, firstBadLine_of_bad hblank hd, Except.error.injEq, eq_comm]

end WindowGateway.Json
