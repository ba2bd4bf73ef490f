import WindowGateway.Address.Bind
import WindowGateway.Proofs.Address.RoundTrip
import WindowGateway.Proofs.Text.Blank

/-! The address that a host and a port are bound to. The text of an address binds to that address.
Whatever a host says, the port stands after the last colon of the text that both are joined in: the
readers of addresses leave what follows as it is, and a name ends at that colon. -/

namespace WindowGateway.Address

open Text (Blanks isBlank digitRun)

/-- How a host says an address: by its text, and one of version 6 by its text in brackets too. -/
inductive HostText : IpAddress → List Char → Prop
  | v4 (x : Ipv4) : HostText (.v4 x) x.chars
  | bare (x : Ipv6) : HostText (.v6 x 0) x.chars
  | bracketed (x : Ipv6) : HostText (.v6 x 0) ('[' :: x.chars ++ [']'])

/-! ### The port after the last colon -/

theorem splitAtLastColon_append {back : List Char} (h : ':' ∉ back) (front : List Char) :
    splitAtLastColon (front ++ ':' :: back) = some (front, back) := by
  have hback : ∀ c ∈ back.reverse, decide (c ≠ ':') = true := by
    intro c hc
    rw [List.mem_reverse] at hc
    exact decide_eq_true (ne_of_mem_of_not_mem hc h)
  have hreverse : (front ++ ':' :: back).reverse = back.reverse ++ ':' :: front.reverse := by simp
  rw [splitAtLastColon, hreverse, List.dropWhile_append_of_pos hback,
    List.takeWhile_append_of_pos hback]
  simp

theorem colon_not_mem_of_digitRun {cs : List Char} {ds : List Nat} (h : digitRun 10 cs = (ds, [])) :
    ':' ∉ cs := by
  obtain ⟨front, rfl, hfront, _⟩ := Text.exists_digits_of_digitRun h
  rw [List.append_nil]
  exact hfront.not_mem (by decide)

theorem colon_not_mem_decimal (n : Nat) : ':' ∉ decimal n := by
  intro h
  obtain ⟨d, _, heq⟩ := Text.exists_digitChar_of_mem_toDigits (by decide) h
  exact Nat.digitChar_ne ':' (by decide) heq.symm

/-- The port that stands after the last colon of a text, which it takes up to the end. -/
inductive PortAtEnd (s : String) : UInt16 → Prop
  | number {front digits : List Char} {n : Nat}
      (split : splitAtLastColon s.toList = some (front, digits))
      (reads : readBelow 65536 digits = some (n, [])) : PortAtEnd s (.ofNat n)

theorem portAtEnd_of_parse? {s : String} {x : SocketAddress} (h : SocketAddress.parse? s = some x) :
    PortAtEnd s x.port := by
  simp only [SocketAddress.parse?, Option.bind_eq_bind, Option.bind_eq_some_iff, Prod.exists] at h
  obtain ⟨ip, tail, hhost, digits, hcolon, n, rest, hport, h⟩ := h
  split at h
  · next hrest =>
    obtain rfl := Option.some.inj h
    obtain rfl := List.isEmpty_iff.mp hrest
    obtain ⟨ds, hrun⟩ := digitRun_of_readBelow hport
    obtain ⟨front, hfront⟩ := suffix_of_readHost hhost
    rw [eq_cons_of_readChar hcolon] at hfront
    -- The digits take the text to its end, so that no colon comes after the one before them.
    have hsplit : splitAtLastColon s.toList = some (front, digits) := by
      rw [← hfront]
      exact splitAtLastColon_append (colon_not_mem_of_digitRun hrun) front
    exact .number hsplit hport
  · cases h

theorem portAtEnd_of_resolve? {resolver : Resolver} {s : String} {x : SocketAddress}
    (h : resolve? resolver s = some x) : PortAtEnd s x.port := by
  simp only [resolve?, Option.bind_eq_bind, Option.bind_eq_some_iff, Prod.exists] at h
  obtain ⟨name, digits, hsplit, n, rest, hport, h⟩ := h
  split at h
  · next hrest =>
    obtain ⟨ip, _, hx⟩ := Option.bind_eq_some_iff.mp h
    obtain rfl := Option.some.inj hx
    obtain rfl := List.isEmpty_iff.mp hrest
    exact .number hsplit hport
  · cases h

theorem eq_of_portAtEnd_bindTarget {host : String} {port other : UInt16}
    (h : PortAtEnd (bindTarget host port) other) : other = port := by
  cases h with
  | number hsplit hreads =>
    rw [bindTarget, String.toList_ofList,
      splitAtLastColon_append (colon_not_mem_decimal port.toNat)] at hsplit
    obtain ⟨rfl, rfl⟩ := Prod.mk.inj (Option.some.inj hsplit)
    rw [readBelow_port] at hreads
    obtain ⟨rfl, _⟩ := Prod.mk.inj (Option.some.inj hreads)
    exact UInt16.ofNat_toNat

/-- No host has a say in the port. -/
theorem port_of_bindAddress? {resolver : Resolver} {host : String} {port : UInt16}
    {x : SocketAddress} (h : bindAddress? resolver host port = some x) : x.port = port := by
  simp only [bindAddress?, Option.or_eq_some_iff] at h
  rcases h with h | ⟨_, h⟩
  · exact eq_of_portAtEnd_bindTarget (portAtEnd_of_parse? h)
  · exact eq_of_portAtEnd_bindTarget (portAtEnd_of_resolve? h)

/-! ### Texts of addresses -/

/-- What the texts of addresses are made of. -/
inductive AddressChar : Char → Prop
  | digit {d : Nat} (h : d < 16) : AddressChar d.digitChar
  | point : AddressChar '.'
  | colon : AddressChar ':'

section Characters

variable {c : Char}

theorem AddressChar.plain (h : AddressChar c) : isBlank c = false ∧ c ≠ '[' := by
  cases h with
  | @digit d hd =>
    have hall : ∀ d : Fin 16, isBlank d.val.digitChar = false ∧ d.val.digitChar ≠ '[' := by decide
    exact hall ⟨d, hd⟩
  | point => decide
  | colon => decide

theorem addressChar_of_mem_toDigits {radix n : Nat} (hlow : 1 < radix) (hhigh : radix ≤ 16)
    (h : c ∈ Nat.toDigits radix n) : AddressChar c := by
  obtain ⟨d, hd, rfl⟩ := Text.exists_digitChar_of_mem_toDigits hlow h
  exact .digit (by omega)

theorem addressChar_ipv4 {x : Ipv4} (h : c ∈ x.chars) : AddressChar c := by
  simp only [Ipv4.chars, List.mem_append, List.mem_cons] at h
  have hdecimal {n : Nat} (h : c ∈ decimal n) : AddressChar c :=
    addressChar_of_mem_toDigits (by decide) (by decide) h
  have hpoint {n : Nat} (h : c = '.' ∨ c ∈ decimal n) : AddressChar c := by
    rcases h with rfl | h
    · exact .point
    · exact hdecimal h
  rcases h with ((h | h) | h) | h
  · exact hdecimal h
  · exact hpoint h
  · exact hpoint h
  · exact hpoint h

theorem addressChar_groupsText {first : Bool} {gs : List UInt16}
    (h : c ∈ groupsText first gs) : AddressChar c := by
  induction gs generalizing first with
  | nil => exact absurd h List.not_mem_nil
  | cons g gs ih =>
    simp only [groupsText, List.mem_append] at h
    rcases h with h | h | h
    · cases first with
      | true => exact absurd h List.not_mem_nil
      | false =>
        rw [List.mem_singleton.mp h]
        exact .colon
    · exact addressChar_of_mem_toDigits (by decide) (by decide) h
    · exact ih h

theorem addressChar_groupChars {gs : List UInt16} (h : c ∈ groupChars gs) : AddressChar c := by
  rw [groupChars_eq] at h
  exact addressChar_groupsText h

theorem addressChar_ipv6 {x : Ipv6} (h : c ∈ x.chars) : AddressChar c := by
  rw [Ipv6.chars] at h
  split at h
  · next hi lo _ =>
    rcases List.mem_append.mp h with h | h
    · have hmapped : c = ':' ∨ c = 'f' := by
        simp only [List.mem_cons, List.not_mem_nil, or_false] at h
        tauto
      rcases hmapped with rfl | rfl
      · exact .colon
      · exact AddressChar.digit (d := 15) (by decide)
    · exact addressChar_ipv4 h
  · dsimp only at h
    split at h
    · rcases List.mem_append.mp h with h | h
      · exact addressChar_groupChars h
      · simp only [List.mem_cons] at h
        rcases h with rfl | rfl | h
        · exact .colon
        · exact .colon
        · exact addressChar_groupChars h
    · exact addressChar_groupChars h

end Characters

theorem colon_not_mem_ipv4 (x : Ipv4) : ':' ∉ x.chars := by
  simp [Ipv4.chars, colon_not_mem_decimal]

theorem colon_mem_ipv6 (x : Ipv6) : ':' ∈ x.chars := by
  rw [Ipv6.chars]
  split
  · simp
  · dsimp only
    split
    · simp
    · -- Eight groups have colons between them.
      obtain ⟨gs, eight⟩ := x
      rcases gs with _ | ⟨g, _ | ⟨h, gs⟩⟩
      · exact absurd eight (by decide)
      · exact absurd eight (by simp)
      · simp [groupChars]

theorem HostText.not_isBlank {ip : IpAddress} {text : List Char} (h : HostText ip text) :
    ∀ c ∈ text, isBlank c = false := by
  intro c hc
  cases h with
  | v4 x => exact (addressChar_ipv4 hc).plain.1
  | bare x => exact (addressChar_ipv6 hc).plain.1
  | bracketed x =>
    simp only [List.cons_append, List.mem_cons, List.mem_append, List.not_mem_nil, or_false] at hc
    rcases hc with rfl | hc | rfl
    · decide
    · exact (addressChar_ipv6 hc).plain.1
    · decide

/-- The text that a host and a port are joined in is that of the address and the port. -/
theorem bindTarget_hostText {ip : IpAddress} {text left right : List Char} (h : HostText ip text)
    (hleft : Blanks left) (hright : Blanks right) (port : UInt16) :
    bindTarget (String.ofList (left ++ text ++ right)) port = SocketAddress.text ⟨ip, port⟩ := by
  rw [bindTarget, SocketAddress.text, String.toList_ofList,
    Text.stripped_around hleft hright h.not_isBlank]
  cases h with
  | v4 x => simp [colon_not_mem_ipv4, IpAddress.hostChars]
  | bare x =>
    have hhead : x.chars.head? ≠ some '[' := fun hhead =>
      (addressChar_ipv6 (List.mem_of_mem_head? hhead)).plain.2 rfl
    simp [colon_mem_ipv6, hhead, IpAddress.hostChars]
  | bracketed x => simp [IpAddress.hostChars]

/-- The text of an address binds to that address, with blanks around it and, for version 6, with
brackets or without. Whatever a host says, what it binds to has the port that is asked for. -/
theorem bindAddress?_hostText_port (resolver : Resolver) (port : UInt16) :
    (∀ ip text left right, HostText ip text → Blanks left → Blanks right →
      bindAddress? resolver (String.ofList (left ++ text ++ right)) port = some ⟨ip, port⟩) ∧
    ∀ host x, bindAddress? resolver host port = some x → x.port = port := by
  refine ⟨fun ip text left right htext hleft hright => ?_, fun host x => port_of_bindAddress?⟩
  rw [bindAddress?, bindTarget_hostText htext hleft hright, parse?_text, Option.some_or]

theorem bindAddress?_hostText_port_gap :
    let x : Ipv6 := ⟨[0xFE80, 0, 0, 1, 0, 0, 0, 0xA], rfl⟩
    let blanks := ['\t', '\u2003']
    HostText (.v6 x 0) "fe80:0:0:1::a".toList ∧ Blanks blanks ∧
      bindAddress? numericNames (String.ofList (blanks ++ "fe80:0:0:1::a".toList ++ blanks)) 55554 =
        some ⟨.v6 x 0, 55554⟩ ∧
      ∃ y, bindAddress? (fun _ => [.v4 ⟨127, 0, 0, 1⟩]) "[::1]:80" 55554 = some y ∧
        y.port = 55554 := by
  intro x blanks
  have htext : HostText (.v6 x 0) "fe80:0:0:1::a".toList := HostText.bare x
  have hblanks : Blanks blanks :=
    List.forall_mem_cons.mpr ⟨by decide, List.forall_mem_singleton.mpr (by decide)⟩
  have hname : bindAddress? (fun _ => [.v4 ⟨127, 0, 0, 1⟩]) "[::1]:80" 55554 =
      some ⟨.v4 ⟨127, 0, 0, 1⟩, 55554⟩ := by decide
  exact ⟨htext, hblanks,
    (bindAddress?_hostText_port numericNames 55554).1 _ _ _ _ htext hblanks hblanks, _, hname,
    (bindAddress?_hostText_port _ 55554).2 _ _ hname⟩

end WindowGateway.Address
