import Mathlib.Tactic.TFAE
import WindowGateway.Client.Exchange
import WindowGateway.Proofs.Call.Containment
import WindowGateway.Proofs.MediaType.Grammar

/-! The content types on which the two ends of a call agree. A gateway accepts a header value for
the payload that a client takes it to name, and for no other; the blanks around the name, the case
of its letters and its parameters have no say. What either end writes is accepted by the other. -/

namespace WindowGateway

open Text (Blanks isBlank stripped)

namespace Framing

/-! ### Spelling -/

/-- The header value spells the content type: it stands first, in letters of whatever case, with
blanks around it, and parameters may follow. -/
def Spelled (f : Framing) (value : String) : Prop :=
  ∃ left name right parameters, value.toList = left ++ name ++ right ++ parameters ∧
    Blanks left ∧ Blanks right ∧ name.map Char.toLower = f.contentType.toList ∧
    ∀ c ∈ parameters.head?, c = ';'

theorem isBlank_toLower (c : Char) : isBlank c.toLower = isBlank c :=
  toLower_invariant (by decide) c

theorem isSemicolon_toLower (c : Char) : decide (c.toLower ≠ ';') = decide (c ≠ ';') :=
  toLower_invariant (p := fun c => decide (c ≠ ';')) (by decide) c

/-- No character of a content type is white space or a semicolon, whatever its case. -/
theorem plain_of_contentType {f : Framing} {name : List Char}
    (h : name.map Char.toLower = f.contentType.toList) {c : Char} (hc : c ∈ name) :
    isBlank c = false ∧ c ≠ ';' := by
  have hall : f.contentType.toList.all (fun d => !isBlank d && d ≠ ';') = true := by
    cases f <;> decide
  have hlower := List.all_eq_true.mp hall c.toLower (h ▸ List.mem_map_of_mem hc)
  rw [isBlank_toLower, isSemicolon_toLower, Bool.and_eq_true, Bool.not_eq_true'] at hlower
  exact ⟨hlower.1, of_decide_eq_true hlower.2⟩

/-- The essence of a value is what stands between the blanks before the first semicolon. -/
theorem named_iff_spelled {f : Framing} {value : String} : f.Named value ↔ f.Spelled value := by
  constructor
  · intro h
    obtain ⟨⟨left, right, parameters, hvalue, hleft, hright, hparameters⟩, -⟩ :=
      MediaType.essence_eq_iff.mp (Eq.refl (MediaType.essence value))
    exact ⟨left, _, right, parameters, hvalue, hleft, hright, h, hparameters⟩
  · rintro ⟨left, name, right, parameters, hvalue, hleft, hright, hname, hparameters⟩
    have hplain : ∀ c ∈ name, isBlank c = false ∧ c ≠ ';' := fun c hc =>
      plain_of_contentType hname hc
    have hessence : MediaType.HasEssence value name :=
      { split := ⟨left, right, parameters, hvalue, hleft, hright, hparameters⟩
        plain := fun hc => (hplain _ hc).2 rfl
        first := fun c hc => (hplain c (List.mem_of_mem_head? hc)).1
        last := fun c hc => (hplain c (List.mem_of_mem_getLast? hc)).1 }
    rw [Named, MediaType.essence_eq_iff.mpr hessence, hname]

/-! ### Names -/

theorem contentType_injective {f g : Framing} (h : f.contentType.toList = g.contentType.toList) :
    f = g := by
  cases f <;> cases g <;> first | rfl | exact absurd h (by decide)

theorem named_contentType (f : Framing) : f.Named f.contentType := by
  cases f <;> decide

theorem Named.unique {f g : Framing} {value : String} (hf : f.Named value) (hg : g.Named value) :
    f = g :=
  contentType_injective (hf.symm.trans hg)

theorem named_parameters {f : Framing} (value parameters : String) :
    f.Named (value ++ ";" ++ parameters) ↔ f.Named value := by
  have hessence : MediaType.essence (value ++ ";" ++ parameters) = MediaType.essence value := by
    have hstop : (value.toList ++ ';' :: parameters.toList).takeWhile (· ≠ ';') =
        value.toList.takeWhile (· ≠ ';') := by
      rw [List.takeWhile_append]
      split
      · next h =>
        rw [List.takeWhile_cons_of_neg (by decide), List.append_nil]
        exact ((List.takeWhile_prefix _).eq_of_length h).symm
      · rfl
    simp only [MediaType.essence, String.toList_append, List.append_assoc]
    exact congrArg stripped hstop
  rw [Named, Named, hessence]

/-- A media type stands for one kind of payload at most. -/
theorem accepts_unique {f g : Framing} {m : MediaType} (hf : f.accepts m = true)
    (hg : g.accepts m = true) : f = g := by
  obtain ⟨top, subtype, hparts, _, _, haccepts⟩ := f.contentType_parts
  obtain ⟨top', subtype', hparts', _, _, haccepts'⟩ := g.contentType_parts
  have hm := ((haccepts m).mp hf).symm.trans ((haccepts' m).mp hg)
  rw [MediaType.mk.injEq, String.ofList_inj, String.ofList_inj] at hm
  exact contentType_injective (by rw [hparts, hparts', hm.1, hm.2])

theorem ofMediaType?_eq_some_iff {m : MediaType} {f : Framing} :
    ofMediaType? m = some f ↔ f.accepts m = true := by
  rw [ofMediaType?]
  constructor
  · intro h
    exact List.find?_some (p := fun f : Framing => f.accepts m) h
  · intro h
    have hsome : (all.find? (·.accepts m)).isSome = true := by
      rw [List.find?_isSome]
      exact ⟨f, by cases f <;> decide, h⟩
    obtain ⟨g, hg⟩ := Option.isSome_iff_exists.mp hsome
    have hgm : g.accepts m = true := List.find?_some (p := fun f : Framing => f.accepts m) hg
    rw [hg, accepts_unique h hgm]

end Framing

/-! ### The two ends -/

section Ends

variable {f : Framing} {headers : Headers} {value : String}

theorem framingOf_eq_ok_iff : Client.framingOf value = .ok f ↔ f.Named value := by
  rw [← f.accepts_parse_iff, Client.framingOf]
  cases MediaType.parse? value with
  | none => simp
  | some m =>
    simp only [Option.some.injEq, exists_eq_left', ← Framing.ofMediaType?_eq_some_iff]
    cases Framing.ofMediaType? m <;> simp

theorem checkContentType_eq_ok_iff (h : headers.get? Headers.contentType = some value) :
    (∃ m, checkContentType headers f = .ok m) ↔ f.Named value := by
  constructor
  · rintro ⟨m, hm⟩
    by_contra hn
    have hnone : ¬headers.Announce f := by
      rintro ⟨other, hother, hnamed⟩
      obtain rfl : value = other := Option.some.inj (h.symm.trans hother)
      exact hn hnamed
    rw [checkContentType_of_not_announce hnone] at hm
    cases hm
  · intro hn
    exact checkContentType_of_announce ⟨value, h, hn⟩

theorem announce_of_mem_buildRequests {docs : List Json.Document} {extra : Headers}
    {request : Envelope} (h : request ∈ Client.buildRequests docs f extra) :
    request.headers.Announce f := by
  have hheaders : request.headers = extra.insert Headers.contentType f.contentType := by
    cases f with
    | batch =>
      obtain rfl := List.mem_singleton.mp h
      rfl
    | document =>
      obtain ⟨d, _, rfl⟩ := List.mem_map.mp h
      rfl
  rw [hheaders]
  exact announce_contentType extra f

/-- The gateway and the client decide alike what a header value names: the gateway for a kind of
payload accepts it just if the client takes it to name this kind, which is so just if it spells the
content type. No value is accepted for two kinds, and what stands after a semicolon has no say. The
requests of a client are accepted, and so is the content type of every reply. -/
structure AgreedOn (f : Framing) (headers : Headers) (value : String) : Prop where
  decided : [∃ m, checkContentType headers f = .ok m,
    Client.requestedFraming (some value) = .ok f, f.Named value, f.Spelled value].TFAE
  exclusive : ∀ g, (∃ m, checkContentType headers f = .ok m) →
    (∃ m, checkContentType headers g = .ok m) → f = g
  parameters : ∀ text, let longer := value ++ ";" ++ text
    ((∃ m, checkContentType (headers.insert Headers.contentType longer) f = .ok m) ↔
      ∃ m, checkContentType headers f = .ok m) ∧
    (Client.requestedFraming (some longer) = .ok f ↔
      Client.requestedFraming (some value) = .ok f)
  requests : ∀ docs extra, ∀ request ∈ Client.buildRequests docs f extra,
    ∃ m, checkContentType request.headers f = .ok m
  replies : ∀ (h : Handler) (request reply : Envelope), (h.answer request).result = .ok reply →
    ∃ sent, reply.headers.get? Headers.contentType = some sent ∧
      Client.requestedFraming (some sent) = .ok h.framing

theorem contentType_agreement (f : Framing) (h : headers.get? Headers.contentType = some value) :
    AgreedOn f headers value := by
  have hserver : ∀ g : Framing, (∃ m, checkContentType headers g = .ok m) ↔ g.Named value :=
    fun g => checkContentType_eq_ok_iff h
  have hclient : ∀ v (g : Framing), Client.requestedFraming (some v) = .ok g ↔ g.Named v :=
    fun v g => framingOf_eq_ok_iff
  constructor
  case decided =>
    tfae_have 1 ↔ 3 := hserver f
    tfae_have 2 ↔ 3 := hclient value f
    tfae_have 3 ↔ 4 := Framing.named_iff_spelled
    tfae_finish
  case exclusive =>
    exact fun g hf hg => ((hserver f).mp hf).unique ((hserver g).mp hg)
  case parameters =>
    intro text longer
    have hnamed : f.Named longer ↔ f.Named value := Framing.named_parameters value text
    constructor
    · rw [checkContentType_eq_ok_iff (OrderedMap.get?_insert_self ..), hserver, hnamed]
    · rw [hclient, hclient, hnamed]
  case requests =>
    exact fun docs extra request hrequest =>
      checkContentType_of_announce (announce_of_mem_buildRequests hrequest)
  case replies =>
    exact fun handler request reply hreply =>
      ⟨_, contentType_of_answer hreply, (hclient _ _).mpr handler.framing.named_contentType⟩

/-- A content type in unusual letters, with blanks that are not ASCII around it and a parameter that
looks like another one. -/
theorem contentType_agreement_spaced :
    let value := "\u2003Multipart/JSON\u0085;a=b;application/json"
    let headers : Headers := OrderedMap.empty.insert Headers.contentType value
    headers.get? Headers.contentType = some value ∧
      (∃ m, checkContentType headers .batch = .ok m) ∧
      Client.requestedFraming (some value) = .ok .batch ∧
      ¬∃ m, checkContentType headers .document = .ok m := by
  intro value headers
  have h : headers.get? Headers.contentType = some value := OrderedMap.get?_insert_self ..
  have hbatch := (contentType_agreement .batch h).decided
  have hnamed : Framing.batch.Named value := by decide
  refine ⟨h, (hbatch.out 0 2).mpr hnamed, (hbatch.out 1 2).mpr hnamed, fun hdocument => ?_⟩
  have hnone : ¬Framing.document.Named value := by decide
  exact hnone (((contentType_agreement .document h).decided.out 0 2).mp hdocument)

end Ends

end WindowGateway
