import WindowGateway.Proofs.MediaType
import WindowGateway.Proofs.Text.Blank

/-! The grammar of media types. A header value names a media type if two tokens with a slash between
them stand in it, before the first semicolon and with nothing but white space around them. Reading
takes just these values; what it yields is written as a value that is read as the same. -/

namespace WindowGateway.MediaType

open Text (Blanks isBlank stripped)

/-! ### Tokens -/

/-- The visible ASCII characters that stand between tokens. -/
def delimiters : List Char := "\"(),/:;<=>?@[\\]\x7b\x7d".toList

def TokenChar (c : Char) : Prop := 0x21 ≤ c.toNat ∧ c.toNat ≤ 0x7E ∧ c ∉ delimiters

instance (c : Char) : Decidable (TokenChar c) := inferInstanceAs (Decidable (_ ∧ _ ∧ _))

structure Token (cs : List Char) : Prop where
  ne_nil : cs ≠ []
  chars : ∀ c ∈ cs, TokenChar c

theorem toNat_lt_of_isAlphanum {c : Char} (h : c.isAlphanum = true) : c.toNat < 0x80 := by
  have hbelow : ∀ d : Char, d.toNat < 0x80 → c.val ≤ d.val → c.toNat < 0x80 :=
    fun d hd hc => Nat.lt_of_le_of_lt (UInt32.le_iff_toNat_le.mp hc) hd
  rcases Bool.or_eq_true_iff.mp h with halpha | hdigit
  · rcases Bool.or_eq_true_iff.mp halpha with hupper | hlower
    · exact hbelow 'Z' (by decide) (of_decide_eq_true hupper).2
    · exact hbelow 'z' (by decide) (of_decide_eq_true (Bool.and_eq_true_iff.mp hlower).2)
  · exact hbelow '9' (by decide) (of_decide_eq_true (Bool.and_eq_true_iff.mp hdigit).2)

theorem toNat_lt_of_isTokenChar {c : Char} (h : isTokenChar c = true) : c.toNat < 0x80 := by
  unfold isTokenChar at h
  rcases Bool.or_eq_true_iff.mp h with halphanum | hsign
  · exact toNat_lt_of_isAlphanum halphanum
  · have hsigns : "!#$%&'*+-.^_`|~".toList.all (fun d => decide (d.toNat < 0x80)) = true := by
      decide
    exact of_decide_eq_true (List.all_eq_true.mp hsigns c (List.contains_iff_mem.mp hsign))

/-- Beyond ASCII there is neither; within it, the characters can be tried one by one. -/
theorem isTokenChar_iff {c : Char} : isTokenChar c = true ↔ TokenChar c := by
  by_cases hascii : c.toNat < 0x80
  · have htried : ∀ k : Fin 0x80,
        isTokenChar (Char.ofNat k) = true ↔ TokenChar (Char.ofNat k) := by decide +kernel
    have hc := htried ⟨c.toNat, hascii⟩
    rwa [Char.ofNat_toNat] at hc
  · constructor
    · intro h
      exact absurd (toNat_lt_of_isTokenChar h) hascii
    · rintro ⟨-, hhigh, -⟩
      omega

theorem isToken_iff {cs : List Char} : isToken cs = true ↔ Token cs := by
  unfold isToken
  simp only [Bool.and_eq_true, Bool.not_eq_true', List.isEmpty_eq_false_iff, List.all_eq_true,
    isTokenChar_iff]
  exact ⟨fun h => ⟨h.1, h.2⟩, fun h => ⟨h.ne_nil, h.chars⟩⟩

theorem TokenChar.not_mem_delimiters {c : Char} (h : TokenChar c) {d : Char}
    (hd : d ∈ delimiters) : c ≠ d := fun heq => h.2.2 (heq ▸ hd)

theorem not_isBlank_of_visible {c : Char} (h : 0x21 ≤ c.toNat ∧ c.toNat ≤ 0x7E) :
    isBlank c = false := by
  simp only [isBlank, Bool.or_eq_false_iff, Bool.and_eq_false_iff, beq_eq_false_iff_ne,
    decide_eq_false_iff_not]
  omega

theorem Token.toLower {cs : List Char} (h : Token cs) : Token (cs.map Char.toLower) := by
  rw [← isToken_iff, isToken_map_toLower]
  exact isToken_iff.mpr h

/-! ### Essences -/

theorem ne_semicolon_of_isBlank {c : Char} (h : isBlank c = true) : c ≠ ';' := by
  rintro rfl
  revert h
  decide

/-- What a header value says before its first semicolon, without the blanks around it. -/
structure HasEssence (value : String) (name : List Char) : Prop where
  split : ∃ left right parameters, value.toList = left ++ name ++ right ++ parameters ∧
    Blanks left ∧ Blanks right ∧ ∀ c ∈ parameters.head?, c = ';'
  plain : ';' ∉ name
  first : ∀ c ∈ name.head?, isBlank c = false
  last : ∀ c ∈ name.getLast?, isBlank c = false

theorem essence_eq_iff {value : String} {name : List Char} :
    essence value = name ↔ HasEssence value name := by
  constructor
  · rintro rfl
    let before := value.toList.takeWhile (· ≠ ';')
    let after := value.toList.dropWhile (· ≠ ';')
    have hsplit : before ++ after = value.toList := List.takeWhile_append_dropWhile
    obtain ⟨left, right, hbefore, hleft, hright⟩ := Text.exists_blanks_around before
    refine ⟨⟨left, right, after, ?_, hleft, hright, fun c hc => ?_⟩, fun hmem => ?_,
      fun c hc => Text.not_isBlank_of_head?_stripped hc,
      fun c hc => Text.not_isBlank_of_getLast?_stripped hc⟩
    · show value.toList = left ++ stripped before ++ right ++ after
      rw [← hbefore, hsplit]
    · have hhead := List.head?_dropWhile_not (· ≠ ';') value.toList
      rw [show (value.toList.dropWhile (· ≠ ';')).head? = some c from hc] at hhead
      simpa using hhead
    · have hbefore' : ';' ∈ before := by
        rw [hbefore]
        simp [show ';' ∈ stripped before from hmem]
      have hne := List.mem_takeWhile_imp hbefore'
      simp at hne
  · rintro ⟨⟨left, right, parameters, hvalue, hleft, hright, hparameters⟩, hplain, hfirst, hlast⟩
    have hbefore : ∀ c ∈ left ++ name ++ right, decide (c ≠ ';') = true := by
      intro c hc
      rw [List.mem_append, List.mem_append] at hc
      apply decide_eq_true
      rcases hc with (hc | hc) | hc
      · exact ne_semicolon_of_isBlank (hleft c hc)
      · rintro rfl
        exact hplain hc
      · exact ne_semicolon_of_isBlank (hright c hc)
    have hstop : parameters.takeWhile (· ≠ ';') = [] := by
      cases parameters with
      | nil => rfl
      | cons c cs => simp [hparameters c rfl]
    rw [essence, hvalue, List.takeWhile_append_of_pos hbefore, hstop, List.append_nil]
    exact Text.stripped_blanks_around hleft hright hfirst hlast

/-! ### Media types -/

/-- The header value names a media type by these two tokens. -/
structure Names (value : String) (top subtype : List Char) : Prop where
  essence : HasEssence value (top ++ '/' :: subtype)
  topToken : Token top
  subtypeToken : Token subtype

/-- The media type that two tokens name. -/
def lowered (top subtype : List Char) : MediaType :=
  ⟨String.ofList (top.map Char.toLower), String.ofList (subtype.map Char.toLower)⟩

theorem parse?_eq_some_iff_names {value : String} {m : MediaType} :
    parse? value = some m ↔ ∃ top subtype, Names value top subtype ∧ m = lowered top subtype := by
  rw [parse?_eq_some_iff]
  constructor
  · rintro ⟨top, subtype, hessence, htop, hsubtype, rfl⟩
    have hnames : Names value top subtype :=
      ⟨essence_eq_iff.mp hessence, isToken_iff.mp htop, isToken_iff.mp hsubtype⟩
    exact ⟨top, subtype, hnames, rfl⟩
  · rintro ⟨top, subtype, ⟨hessence, htop, hsubtype⟩, rfl⟩
    exact ⟨top, subtype, essence_eq_iff.mpr hessence, isToken_iff.mpr htop,
      isToken_iff.mpr hsubtype, rfl⟩

section Tokens

variable {top subtype : List Char}

theorem text_lowered (top subtype : List Char) :
    (lowered top subtype).text.toList = (top ++ '/' :: subtype).map Char.toLower := by
  simp [lowered, text]

theorem tokenChar_or_slash {c : Char} (htop : Token top) (hsubtype : Token subtype)
    (hc : c ∈ top ++ '/' :: subtype) : TokenChar c ∨ c = '/' := by
  rw [List.mem_append, List.mem_cons] at hc
  rcases hc with hc | hslash | hc
  · exact .inl (htop.chars c hc)
  · exact .inr hslash
  · exact .inl (hsubtype.chars c hc)

theorem visible_of_mem {c : Char} (htop : Token top) (hsubtype : Token subtype)
    (hc : c ∈ top ++ '/' :: subtype) : 0x21 ≤ c.toNat ∧ c.toNat ≤ 0x7E := by
  rcases tokenChar_or_slash htop hsubtype hc with ⟨hlow, hhigh, -⟩ | rfl
  · exact ⟨hlow, hhigh⟩
  · decide

theorem semicolon_not_mem (htop : Token top) (hsubtype : Token subtype) :
    ';' ∉ top ++ '/' :: subtype := by
  intro hc
  rcases tokenChar_or_slash htop hsubtype hc with htoken | hslash
  · exact htoken.not_mem_delimiters (by decide) rfl
  · exact absurd hslash (by decide)

theorem slash_not_mem (h : Token top) : '/' ∉ top :=
  fun hc => (h.chars _ hc).not_mem_delimiters (by decide) rfl

theorem count_slash (htop : Token top) (hsubtype : Token subtype) :
    (top ++ '/' :: subtype).count '/' = 1 := by
  rw [List.count_append, List.count_cons_self, List.count_eq_zero_of_not_mem (slash_not_mem htop),
    List.count_eq_zero_of_not_mem (slash_not_mem hsubtype)]

/-- Two tokens and a slash alone name what they say. -/
theorem names_ofList (htop : Token top) (hsubtype : Token subtype) {value : String}
    (hvalue : value.toList = top ++ '/' :: subtype) : Names value top subtype := by
  have hplain : ∀ c ∈ top ++ '/' :: subtype, isBlank c = false :=
    fun c hc => not_isBlank_of_visible (visible_of_mem htop hsubtype hc)
  refine ⟨⟨⟨[], [], [], by simpa using hvalue, ?_, ?_, by simp⟩, semicolon_not_mem htop hsubtype,
    fun c hc => hplain c (List.mem_of_mem_head? hc),
    fun c hc => hplain c (List.mem_of_mem_getLast? hc)⟩, htop, hsubtype⟩
  · exact fun c hc => absurd hc List.not_mem_nil
  · exact fun c hc => absurd hc List.not_mem_nil

end Tokens

theorem toLower_toLower (c : Char) : c.toLower.toLower = c.toLower := by
  rcases toLower_cases c with hc | ⟨k, rfl⟩
  · rw [hc, hc]
  · revert k
    decide

theorem map_toLower_toLower (cs : List Char) :
    (cs.map Char.toLower).map Char.toLower = cs.map Char.toLower := by
  rw [List.map_map]
  exact List.map_congr_left fun c _ => toLower_toLower c

section Reading

variable {value : String} {m : MediaType}

theorem text_of_parse? (h : parse? value = some m) :
    m.text.toList = (essence value).map Char.toLower := by
  obtain ⟨top, subtype, hnames, rfl⟩ := parse?_eq_some_iff_names.mp h
  rw [text_lowered, essence_eq_iff.mpr hnames.essence]

theorem parse?_text (h : parse? value = some m) : parse? m.text = some m := by
  obtain ⟨top, subtype, hnames, rfl⟩ := parse?_eq_some_iff_names.mp h
  have htext : (lowered top subtype).text.toList =
      top.map Char.toLower ++ '/' :: subtype.map Char.toLower := by
    rw [text_lowered, List.map_append, List.map_cons]
    rfl
  refine parse?_eq_some_iff_names.mpr
    ⟨_, _, names_ofList hnames.topToken.toLower hnames.subtypeToken.toLower htext, ?_⟩
  simp only [lowered, map_toLower_toLower]

end Reading

/-- A header value is read as a media type just if it names one, and then as the tokens that name
it, in lower case. Its essence is visible ASCII with one slash in it. What a media type is written
as is read as the same media type; and two values are read as the same just if their essences are
the same but for the case of ASCII letters. -/
structure ReadByGrammar (value : String) : Prop where
  trimmed : ∀ name, HasEssence value name ↔ essence value = name
  accepts : ∀ m, parse? value = some m ↔
    ∃ top subtype, Names value top subtype ∧ m = lowered top subtype
  visible : ∀ m, parse? value = some m → (essence value).count '/' = 1 ∧
    ∀ c ∈ essence value, 0x21 ≤ c.toNat ∧ c.toNat ≤ 0x7E
  text : ∀ m, parse? value = some m → parse? m.text = some m
  same : ∀ other m m', parse? value = some m → parse? other = some m' →
    (m = m' ↔ (essence value).map Char.toLower = (essence other).map Char.toLower)

theorem parse?_readByGrammar (value : String) : ReadByGrammar value where
  trimmed name := essence_eq_iff.symm
  accepts m := parse?_eq_some_iff_names
  visible m hm := by
    obtain ⟨top, subtype, hnames, -⟩ := parse?_eq_some_iff_names.mp hm
    rw [essence_eq_iff.mpr hnames.essence]
    exact ⟨count_slash hnames.topToken hnames.subtypeToken,
      fun c hc => visible_of_mem hnames.topToken hnames.subtypeToken hc⟩
  text m hm := parse?_text hm
  same other m m' hm hm' := by
    rw [← text_of_parse? hm, ← text_of_parse? hm', String.toList_inj]
    constructor
    · rintro rfl
      rfl
    · intro htext
      -- Both are read back from one text.
      have hread := parse?_text hm
      rw [htext, parse?_text hm'] at hread
      exact (Option.some.inj hread).symm

end WindowGateway.MediaType
