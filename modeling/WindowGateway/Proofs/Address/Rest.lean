import WindowGateway.Address.Parse
import WindowGateway.Proofs.Text.Digits

/-! What the readers of addresses leave. Each takes characters from the front, and what it leaves is
the end of the text as it stands there. -/

namespace WindowGateway.Address

open Text (digitRun suffix_of_digitRun)

section Rest

variable {cs rest : List Char}

theorem eq_cons_of_readChar {c : Char} (h : readChar c cs = some rest) : cs = c :: rest := by
  cases cs with
  | nil => cases h
  | cons d cs =>
    rw [readChar] at h
    split at h
    · next hd =>
      obtain rfl := Option.some.inj h
      rw [hd]
    · cases h

theorem suffix_of_readChar {c : Char} (h : readChar c cs = some rest) : rest <:+ cs := by
  rw [eq_cons_of_readChar h]
  exact List.suffix_cons c rest

theorem digitRun_of_readOctet {b : UInt8} (h : readOctet cs = some (b, rest)) :
    ∃ ds, digitRun 10 cs = (ds, rest) := by
  rw [readOctet] at h
  split at h
  next ds tail hrun =>
  dsimp only at h
  split at h
  · cases h
  · obtain ⟨_, rfl⟩ := Prod.mk.inj (Option.some.inj h)
    exact ⟨ds, hrun⟩

theorem suffix_of_readOctet {b : UInt8} (h : readOctet cs = some (b, rest)) : rest <:+ cs := by
  obtain ⟨ds, hrun⟩ := digitRun_of_readOctet h
  exact suffix_of_digitRun hrun

theorem suffix_of_readGroup {g : UInt16} (h : readGroup cs = some (g, rest)) : rest <:+ cs := by
  rw [readGroup] at h
  split at h
  next ds tail hrun =>
  split at h
  · cases h
  · obtain ⟨_, rfl⟩ := Prod.mk.inj (Option.some.inj h)
    exact suffix_of_digitRun hrun

theorem digitRun_of_readBelow {limit n : Nat} (h : readBelow limit cs = some (n, rest)) :
    ∃ ds, digitRun 10 cs = (ds, rest) := by
  rw [readBelow] at h
  split at h
  next ds tail hrun =>
  dsimp only at h
  split at h
  · cases h
  · obtain ⟨_, rfl⟩ := Prod.mk.inj (Option.some.inj h)
    exact ⟨ds, hrun⟩

theorem suffix_of_readBelow {limit n : Nat} (h : readBelow limit cs = some (n, rest)) :
    rest <:+ cs := by
  obtain ⟨ds, hrun⟩ := digitRun_of_readBelow h
  exact suffix_of_digitRun hrun

theorem suffix_of_readIpv4 {x : Ipv4} (h : readIpv4 cs = some (x, rest)) : rest <:+ cs := by
  simp only [readIpv4, Option.bind_eq_bind, Option.bind_eq_some_iff, Prod.exists, Option.pure_def,
    Option.some.injEq, Prod.mk.injEq] at h
  obtain ⟨a, _, ha, _, hp, b, _, hb, _, hq, c, _, hc, _, hr, d, _, hd, _, rfl⟩ := h
  have h₁ := (suffix_of_readChar hp).trans (suffix_of_readOctet ha)
  have h₂ := (suffix_of_readChar hq).trans (suffix_of_readOctet hb)
  have h₃ := (suffix_of_readChar hr).trans (suffix_of_readOctet hc)
  exact (suffix_of_readOctet hd).trans (h₃.trans (h₂.trans h₁))

theorem suffix_of_readAfterColon {α : Type} {first : Bool}
    {read : List Char → Option (α × List Char)} {x : α}
    (hread : ∀ cs rest, read cs = some (x, rest) → rest <:+ cs)
    (h : readAfterColon first read cs = some (x, rest)) : rest <:+ cs := by
  cases first with
  | true => exact hread cs rest h
  | false =>
    obtain ⟨tail, htail, hx⟩ := Option.bind_eq_some_iff.mp h
    exact (hread tail rest hx).trans (suffix_of_readChar htail)

theorem suffix_of_readGroups (limit : Nat) (first : Bool) (cs : List Char) :
    (readGroups limit first cs).2.2 <:+ cs := by
  induction limit generalizing first cs with
  | zero => exact List.suffix_rfl
  | succ limit ih =>
    rw [readGroups]
    dsimp only
    split
    · next x rest hx =>
      split at hx
      · cases hx
      · exact suffix_of_readAfterColon (fun _ _ => suffix_of_readIpv4) hx
    · split
      · exact List.suffix_rfl
      · next g rest hg =>
        exact (ih false rest).trans (suffix_of_readAfterColon (fun _ _ => suffix_of_readGroup) hg)

theorem suffix_of_readIpv6 {x : Ipv6} (h : readIpv6 cs = some (x, rest)) : rest <:+ cs := by
  have hhead := suffix_of_readGroups 8 true cs
  rw [readIpv6] at h
  split at h
  next head embedded middle hgroups =>
  rw [hgroups] at hhead
  split at h
  · obtain ⟨_, _, hrest⟩ := Option.map_eq_some_iff.mp h
    obtain ⟨_, rfl⟩ := Prod.mk.inj hrest
    exact hhead
  split at h
  · cases h
  simp only [Option.bind_eq_bind, Option.bind_eq_some_iff] at h
  obtain ⟨gap, hgap, back, hback, h⟩ := h
  obtain ⟨_, _, hrest⟩ := Option.map_eq_some_iff.mp h
  obtain ⟨_, rfl⟩ := Prod.mk.inj hrest
  have htail := suffix_of_readGroups (7 - head.length) true back
  exact htail.trans ((suffix_of_readChar hback).trans ((suffix_of_readChar hgap).trans hhead))

theorem suffix_of_readScope (cs : List Char) : (readScope cs).2 <:+ cs := by
  rw [readScope]
  split
  · next n rest h =>
    obtain ⟨tail, htail, hn⟩ := Option.bind_eq_some_iff.mp h
    exact (suffix_of_readBelow hn).trans (suffix_of_readChar htail)
  · exact List.suffix_rfl

theorem suffix_of_readBracketed {x : IpAddress} (h : readBracketed cs = some (x, rest)) :
    rest <:+ cs := by
  simp only [readBracketed, Option.bind_eq_bind, Option.bind_eq_some_iff, Prod.exists,
    Option.pure_def, Option.some.injEq, Prod.mk.injEq] at h
  obtain ⟨inner, hopen, y, tail, hy, back, hclose, _, rfl⟩ := h
  have hscope := suffix_of_readScope tail
  exact (suffix_of_readChar hclose).trans
    (hscope.trans ((suffix_of_readIpv6 hy).trans (suffix_of_readChar hopen)))

theorem suffix_of_readHost {x : IpAddress} (h : readHost cs = some (x, rest)) : rest <:+ cs := by
  rw [readHost] at h
  split at h
  · next y tail hy =>
    obtain ⟨_, rfl⟩ := Prod.mk.inj (Option.some.inj h)
    exact suffix_of_readIpv4 hy
  · exact suffix_of_readBracketed h

end Rest

end WindowGateway.Address
