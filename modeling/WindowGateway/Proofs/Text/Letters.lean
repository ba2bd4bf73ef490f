import WindowGateway.Proofs.Text.Uppercase

/-! What upper case makes of characters. Rows of letters stand beside the letters that they become,
and letters that become several characters beside these. In the blocks of scripts that know no case,
and of signs, characters stay as they are. -/

namespace WindowGateway.Text

open UpperRun

/-! ### Letters and other characters -/

/-- Rows of letters, and the letters that they become, each the one in its place. -/
def letterRows : List (String × String) :=
  [("abcdefghijklmnopqrstuvwxyz", "ABCDEFGHIJKLMNOPQRSTUVWXYZ"), ("µ", "Μ"),
   ("àáâãäåæçèéêëìíîïðñòóôõö", "ÀÁÂÃÄÅÆÇÈÉÊËÌÍÎÏÐÑÒÓÔÕÖ"), ("øùúûüýþ", "ØÙÚÛÜÝÞ"), ("ÿ", "Ÿ"),
   ("āăąćĉċčďđēĕėęěĝğġģĥħĩīĭį", "ĀĂĄĆĈĊČĎĐĒĔĖĘĚĜĞĠĢĤĦĨĪĬĮ"), ("ı", "I"), ("ĳĵķ", "ĲĴĶ"),
   ("ĺļľŀłńņň", "ĹĻĽĿŁŃŅŇ"), ("ŋōŏőœŕŗřśŝşšţťŧũūŭůűųŵŷ", "ŊŌŎŐŒŔŖŘŚŜŞŠŢŤŦŨŪŬŮŰŲŴŶ"),
   ("źżž", "ŹŻŽ"), ("ſ", "S"), ("ǅ", "Ǆ"), ("ǆ", "Ǆ"), ("ά", "Ά"), ("έήί", "ΈΉΊ"),
   ("αβγδεζηθικλμνξοπρ", "ΑΒΓΔΕΖΗΘΙΚΛΜΝΞΟΠΡ"), ("ς", "Σ"), ("στυφχψωϊϋ", "ΣΤΥΦΧΨΩΪΫ"), ("ό", "Ό"),
   ("ύώ", "ΎΏ"), ("абвгдежзийклмнопрстуфхцчшщъыьэюя", "АБВГДЕЖЗИЙКЛМНОПРСТУФХЦЧШЩЪЫЬЭЮЯ"),
   ("ѐёђѓєѕіїјљњћќѝўџ", "ЀЁЂЃЄЅІЇЈЉЊЋЌЍЎЏ"),
   ("աբգդեզէըթժիլխծկհձղճմյնշոչպջռսվտրցւփքօֆ", "ԱԲԳԴԵԶԷԸԹԺԻԼԽԾԿՀՁՂՃՄՅՆՇՈՉՊՋՌՍՎՏՐՑՒՓՔՕՖ"),
   ("აბგდევზთიკლმნოპჟრსტუფქღყშჩცძწჭხჯჰჱჲჳჴჵჶჷჸჹჺ",
    "ᲐᲑᲒᲓᲔᲕᲖᲗᲘᲙᲚᲛᲜᲝᲞᲟᲠᲡᲢᲣᲤᲥᲦᲧᲨᲩᲪᲫᲬᲭᲮᲯᲰᲱᲲᲳᲴᲵᲶᲷᲸᲹᲺ"),
   ("ａｂｃｄｅｆｇｈｉｊｋｌｍｎｏｐｑｒｓｔｕｖｗｘｙｚ", "ＡＢＣＤＥＦＧＨＩＪＫＬＭＮＯＰＱＲＳＴＵＶＷＸＹＺ")]

/-- Letters that become several characters. -/
def longLetters : List (Char × String) :=
  [('ß', "SS"), ('ŉ', "ʼN"), ('ǰ', "J\u030C"), ('ΐ', "Ι\u0308\u0301"), ('և', "ԵՒ"),
   ('ẖ', "H\u0331"), ('ẚ', "Aʾ"), ('ὐ', "Υ\u0313"), ('ᾀ', "ἈΙ"), ('ᾳ', "ΑΙ"),
   ('ᾷ', "Α\u0342Ι"), ('ﬀ', "FF"), ('ﬁ', "FI"), ('ﬃ', "FFI"), ('ﬅ', "ST"), ('ﬓ', "ՄՆ")]

/-- The first and the last code points of blocks without small letters. They begin with the digits,
signs and capitals of ASCII; the scripts of the Near East, of India and of East Asia are among them,
and pictures. -/
def uncasedBlocks : List (Nat × Nat) :=
  [(0x0, 0x60), (0x7B, 0xB4), (0x588, 0x10CF), (0x1100, 0x13F7), (0x1400, 0x1C7F),
   (0x2185, 0x24CF), (0x24EA, 0x2C2F), (0x2D2E, 0xA640), (0xABC0, 0xFAFF), (0xFB18, 0xFF40),
   (0x1E944, 0x10FFFF)]

def Uncased (c : Char) : Prop := ∃ block ∈ uncasedBlocks, block.1 ≤ c.toNat ∧ c.toNat ≤ block.2

/-- Upper case as Unicode has it: a text is taken character by character, and each becomes what the
tables write for it. -/
structure UnicodeUpper (upper : String → String) : Prop where
  append : ∀ s t, upper (s ++ t) = upper s ++ upper t
  character : ∀ c codes, WrittenUpper c.toNat codes →
    upper (String.singleton c) = String.ofList (codes.map Char.ofNat)
  letters : ∀ row ∈ letterRows, upper row.1 = row.2
  long : ∀ x ∈ longLetters, upper (String.singleton x.1) = x.2
  uncased : ∀ s, (∀ c ∈ s.toList, Uncased c) → upper s = s

/-! ### Rows -/

namespace UpperRun

/-- The code points of a run. -/
def codes (q : UpperRun) : List Nat :=
  (List.range ((q.last - q.first) / q.step + 1)).map fun k => q.first + q.step * k

/-- The letters of a run, and what they become. -/
def row (q : UpperRun) : String × String :=
  (String.ofList (q.codes.map Char.ofNat),
    String.ofList (q.codes.map fun n => Char.ofNat (q.upperOf n)))

theorem holds_of_mem_codes {q : UpperRun} {n : Nat} (hrun : q.first ≤ q.last) (hn : n ∈ q.codes) :
    q.Holds n := by
  obtain ⟨k, hk, rfl⟩ := List.mem_map.mp hn
  have hsteps : q.step * k ≤ q.last - q.first := by
    rw [Nat.mul_comm]
    exact Nat.mul_le_of_le_div _ _ _ (Nat.lt_succ_iff.mp (List.mem_range.mp hk))
  refine ⟨Nat.le_add_right _ _, by omega, ?_⟩
  rw [Nat.add_sub_cancel_left, Nat.mul_mod_right]

end UpperRun

/-- The runs that the rows of letters are. -/
def letterRuns : List UpperRun :=
  [(0x61, 0x7A, 1, 0x41), (0xB5, 0xB5, 1, 0x39C), (0xE0, 0xF6, 1, 0xC0), (0xF8, 0xFE, 1, 0xD8),
   (0xFF, 0xFF, 1, 0x178), (0x101, 0x12F, 2, 0x100), (0x131, 0x131, 1, 0x49),
   (0x133, 0x137, 2, 0x132), (0x13A, 0x148, 2, 0x139), (0x14B, 0x177, 2, 0x14A),
   (0x17A, 0x17E, 2, 0x179), (0x17F, 0x17F, 1, 0x53), (0x1C5, 0x1C5, 1, 0x1C4),
   (0x1C6, 0x1C6, 1, 0x1C4), (0x3AC, 0x3AC, 1, 0x386), (0x3AD, 0x3AF, 1, 0x388),
   (0x3B1, 0x3C1, 1, 0x391), (0x3C2, 0x3C2, 1, 0x3A3), (0x3C3, 0x3CB, 1, 0x3A3),
   (0x3CC, 0x3CC, 1, 0x38C), (0x3CD, 0x3CE, 1, 0x38E), (0x430, 0x44F, 1, 0x410),
   (0x450, 0x45F, 1, 0x400), (0x561, 0x586, 1, 0x531), (0x10D0, 0x10FA, 1, 0x1C90),
   (0xFF41, 0xFF5A, 1, 0xFF21)]

set_option maxRecDepth 4000 in
theorem letterRows_eq : letterRows = letterRuns.map UpperRun.row := by rfl

theorem letterRuns_sound : ∀ q ∈ letterRuns, q ∈ upperRuns ∧ first q ≤ last q ∧
    (last q < 0xD800 ∨ 0xDFFF < first q ∧ last q < 0x110000) := by
  decide +kernel

/-! ### The mapping -/

theorem uppercase_append (s t : String) : uppercase (s ++ t) = uppercase s ++ uppercase t := by
  simp only [uppercase_eq, String.toList_append, List.flatMap_append, String.ofList_append]

theorem uppercase_singleton (c : Char) :
    uppercase (String.singleton c) = String.ofList (upperChars c) := by
  rw [uppercase_eq, String.toList_singleton, List.flatMap_singleton]

theorem uppercase_row {q : UpperRun} (hq : q ∈ letterRuns) : uppercase q.row.1 = q.row.2 := by
  obtain ⟨hrun, hordered, hchars⟩ := letterRuns_sound q hq
  have hsingle : ∀ n ∈ q.codes, upperChars (Char.ofNat n) = [Char.ofNat (q.upperOf n)] := by
    intro n hn
    have hholds := holds_of_mem_codes hordered hn
    have hchar : (Char.ofNat n).toNat = n := by
      obtain ⟨hfirst, hlast, -⟩ := hholds
      exact Utf8.toNat_char (by omega)
    rw [upperChars, hchar, upperCodes_of_written (.run hrun hholds), List.map_singleton]
  rw [row, uppercase_eq, String.toList_ofList, List.flatMap_map, List.flatMap_def,
    List.map_congr_left hsingle, ← List.flatMap_def, ← List.map_eq_flatMap]

/-- No run reaches into a block, and no letter in it becomes several characters. -/
theorem uncasedBlocks_sound : (uncasedBlocks.all fun block =>
    upperRuns.all (fun r => !reaches block.1 block.2 r) &&
      upperExpansions.all fun x => Nat.blt x.1 block.1 || Nat.blt block.2 x.1) = true := by
  decide +kernel

theorem upperChars_uncased {c : Char} (h : Uncased c) : upperChars c = [c] := by
  obtain ⟨block, hblock, hfirst, hlast⟩ := h
  have hfree := List.all_eq_true.mp uncasedBlocks_sound block hblock
  rw [Bool.and_eq_true, List.all_eq_true, List.all_eq_true] at hfree
  have hself : WrittenUpper c.toNat [c.toNat] := by
    refine .self (fun x hx heq => ?_) fun r hr hheld => ?_
    · have hapart := hfree.2 x hx
      rw [Bool.or_eq_true, Nat.blt_eq, Nat.blt_eq] at hapart
      omega
    · have hapart := hfree.1 r hr
      rw [hheld.reaches hfirst hlast] at hapart
      cases hapart
  rw [upperChars, upperCodes_of_written hself, List.map_singleton, Char.ofNat_toNat]

theorem uppercase_long : ∀ x ∈ longLetters, String.ofList (upperChars x.1) = x.2 := by
  decide +kernel

theorem uppercase_unicode : UnicodeUpper uppercase where
  append := uppercase_append
  character c codes h := by
    rw [uppercase_singleton, upperChars, upperCodes_of_written h]
  letters row hrow := by
    rw [letterRows_eq] at hrow
    obtain ⟨q, hq, rfl⟩ := List.mem_map.mp hrow
    exact uppercase_row hq
  long x hx := by
    rw [uppercase_singleton]
    exact uppercase_long x hx
  uncased s h := by
    rw [uppercase_eq, List.flatMap_def,
      List.map_congr_left fun c hc => upperChars_uncased (h c hc), ← List.flatMap_def,
      List.flatMap_singleton', String.ofList_toList]

example : uppercase "Straße ⅷ, 東京 №7" = "STRASSE Ⅷ, 東京 №7" := by decide +kernel

end WindowGateway.Text
