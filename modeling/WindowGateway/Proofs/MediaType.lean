import WindowGateway.Handler

/-! Which header values name a payload: those whose essence is its content type, the case of ASCII
letters apart. -/

namespace WindowGateway

/-! ### Lower case -/

theorem toLower_cases (c : Char) :
    c.toLower = c ∨ ∃ k : Fin 26, c = Char.ofNat (0x41 + k) := by
  unfold Char.toLower
  split
  · next h =>
    have hlow : 0x41 ≤ c.toNat := UInt32.le_iff_toNat_le.mp h.1
    have hhigh : c.toNat ≤ 0x5A := UInt32.le_iff_toNat_le.mp h.2
    refine .inr ⟨⟨c.toNat - 0x41, by omega⟩, ?_⟩
    rw [Nat.add_sub_cancel' hlow, Char.ofNat_toNat]
  · exact .inl rfl

/-- What holds of a character in whatever case need only be tried on the capital letters. -/
theorem toLower_invariant {p : Char → Bool}
    (h : ∀ k : Fin 26, p (Char.ofNat (0x41 + k)).toLower = p (Char.ofNat (0x41 + k))) (c : Char) :
    p c.toLower = p c := by
  rcases toLower_cases c with hc | ⟨k, rfl⟩
  · rw [hc]
  · exact h k

namespace MediaType

theorem isTokenChar_toLower (c : Char) : isTokenChar c.toLower = isTokenChar c :=
  toLower_invariant (by decide) c

theorem isSlash_toLower (c : Char) : decide (c.toLower ≠ '/') = decide (c ≠ '/') :=
  toLower_invariant (p := fun c => decide (c ≠ '/')) (by decide) c

theorem isToken_map_toLower (cs : List Char) : isToken (cs.map Char.toLower) = isToken cs := by
  have hall : (cs.map Char.toLower).all isTokenChar = cs.all isTokenChar := by
    rw [List.all_map]
    exact congrArg (List.all cs) (funext isTokenChar_toLower)
  rw [isToken, isToken, hall, List.isEmpty_map]

theorem not_slash_of_isToken {cs : List Char} (h : isToken cs = true) :
    ∀ c ∈ cs, decide (c ≠ '/') = true := by
  intro c hc
  rw [isToken, Bool.and_eq_true, List.all_eq_true] at h
  refine decide_eq_true fun hslash => ?_
  have htoken := h.2 c hc
  rw [hslash] at htoken
  exact absurd htoken (by decide)

/-- A header value names a media type if its essence is two tokens with a slash between them. -/
theorem parse?_eq_some_iff {s : String} {m : MediaType} :
    parse? s = some m ↔
      ∃ top subtype, essence s = top ++ '/' :: subtype ∧ isToken top = true ∧
        isToken subtype = true ∧
        m = ⟨String.ofList (top.map Char.toLower), String.ofList (subtype.map Char.toLower)⟩ := by
  constructor
  · intro h
    unfold parse? at h
    simp only at h
    split at h
    · simp at h
    · next c subtype hdrop =>
      split at h
      · next htokens =>
        rw [Bool.and_eq_true] at htokens
        have hne : (essence s).dropWhile (· ≠ '/') ≠ [] := by
          rw [hdrop]
          exact List.cons_ne_nil c subtype
        have hslash : c = '/' := by
          have hhead := List.head_dropWhile_not _ hne
          simp only [hdrop, List.head_cons] at hhead
          simpa using hhead
        have hsplit := List.takeWhile_append_dropWhile (p := (· ≠ '/')) (l := essence s)
        rw [hdrop, hslash] at hsplit
        exact ⟨_, subtype, hsplit.symm, htokens.1, htokens.2, (Option.some.inj h).symm⟩
      · simp at h
  · rintro ⟨top, subtype, hessence, htop, hsubtype, rfl⟩
    have hno := not_slash_of_isToken htop
    unfold parse?
    simp only [hessence, List.takeWhile_append_of_pos hno, List.dropWhile_append_of_pos hno]
    simp [htop, hsubtype]

end MediaType

namespace Framing

/-- The two parts of a content type. -/
theorem contentType_parts (f : Framing) :
    ∃ top subtype, f.contentType.toList = top ++ '/' :: subtype ∧
      MediaType.isToken top = true ∧ MediaType.isToken subtype = true ∧
      ∀ m, f.accepts m = true ↔ m = ⟨String.ofList top, String.ofList subtype⟩ := by
  cases f with
  | batch =>
    refine ⟨"multipart".toList, "json".toList, by decide, by decide, by decide, fun m => ?_⟩
    obtain ⟨top, subtype⟩ := m
    simp [accepts]
  | document =>
    refine ⟨"application".toList, "json".toList, by decide, by decide, by decide, fun m => ?_⟩
    obtain ⟨top, subtype⟩ := m
    simp [accepts]

/-- A header value names the payload if its essence is the content type, in whatever case. -/
def Named (f : Framing) (value : String) : Prop :=
  (MediaType.essence value).map Char.toLower = f.contentType.toList

instance (f : Framing) (value : String) : Decidable (f.Named value) :=
  inferInstanceAs (Decidable (_ = _))

/-- A media type is accepted for a payload if the header value names the payload. -/
theorem accepts_parse_iff (f : Framing) (value : String) :
    (∃ m, MediaType.parse? value = some m ∧ f.accepts m = true) ↔ f.Named value := by
  obtain ⟨top, subtype, hparts, htop, hsubtype, haccepts⟩ := f.contentType_parts
  rw [Named, hparts]
  constructor
  · rintro ⟨m, hm, hf⟩
    obtain ⟨t, u, hessence, _, _, rfl⟩ := MediaType.parse?_eq_some_iff.mp hm
    have hm := (haccepts _).mp hf
    rw [MediaType.mk.injEq, String.ofList_inj, String.ofList_inj] at hm
    rw [hessence, List.map_append, List.map_cons, hm.1, hm.2]
    rfl
  · intro h
    obtain ⟨t, rest, hessence, ht, hrest⟩ := List.map_eq_append_iff.mp h
    obtain ⟨c, u, rfl, hc, hu⟩ := List.map_eq_cons_iff.mp hrest
    have hslash : c = '/' := by
      have hinvariant := MediaType.isSlash_toLower c
      rw [hc] at hinvariant
      simpa using hinvariant
    have htoken : MediaType.isToken t = true := by
      rw [← MediaType.isToken_map_toLower, ht]
      exact htop
    have hutoken : MediaType.isToken u = true := by
      rw [← MediaType.isToken_map_toLower, hu]
      exact hsubtype
    rw [hslash] at hessence
    refine ⟨_, MediaType.parse?_eq_some_iff.mpr ⟨t, u, hessence, htoken, hutoken, rfl⟩, ?_⟩
    rw [haccepts, ht, hu]

end Framing

/-- The headers say that the payload is of this kind. -/
def Headers.Announce (headers : Headers) (f : Framing) : Prop :=
  ∃ value, headers.get? Headers.contentType = some value ∧ f.Named value

theorem announce_contentType (headers : Headers) (f : Framing) :
    Headers.Announce (headers.insert Headers.contentType f.contentType) f :=
  ⟨_, OrderedMap.get?_insert_self .., by cases f <;> decide⟩

theorem checkContentType_of_announce {headers : Headers} {f : Framing} (h : headers.Announce f) :
    ∃ m, checkContentType headers f = .ok m := by
  obtain ⟨value, hget, hnamed⟩ := h
  obtain ⟨m, hparse, haccepts⟩ := (f.accepts_parse_iff value).mpr hnamed
  refine ⟨m, ?_⟩
  rw [checkContentType]
  simp [hget, hparse, haccepts]

theorem checkContentType_of_not_announce {headers : Headers} {f : Framing}
    (h : ¬headers.Announce f) :
    checkContentType headers f =
      .error (.contentType (headers.get? Headers.contentType) f) := by
  rw [checkContentType]
  split
  · next m hm =>
    obtain ⟨value, hget, hparse⟩ := Option.bind_eq_some_iff.mp hm
    rw [if_neg]
    intro haccepts
    exact h ⟨value, hget, (f.accepts_parse_iff value).mp ⟨m, hparse, haccepts⟩⟩
  · rfl

end WindowGateway
