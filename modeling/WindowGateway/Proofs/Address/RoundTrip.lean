import Mathlib.Data.List.TakeWhile
import WindowGateway.Proofs.Address.Rest

/-! Addresses read back. Each reader takes the text of what it reads from the front, whatever
follows that does not go on with it, so that an address with a port is what its text is read as. -/

namespace WindowGateway.Address

open Text (NoDigit digitIn? digitRun digitRun_toDigits exists_digits_of_digitRun
  exists_digitChar_of_mem_toDigits noDigit_cons noDigit_nil)

/-! ### Numbers -/

theorem readChar_cons (c : Char) (cs : List Char) : readChar c (c :: cs) = some cs := if_pos rfl

theorem readChar_ne {c d : Char} (h : d ≠ c) (cs : List Char) : readChar c (d :: cs) = none :=
  if_neg h

section Numbers

variable {rest : List Char}

theorem readBelow_decimal {limit n : Nat} (hn : n < limit) (hr : NoDigit 10 rest) :
    readBelow limit (decimal n ++ rest) = some (n, rest) := by
  obtain ⟨ds, hrun, hvalue, hlength, _⟩ := digitRun_toDigits (by decide) (by decide) n hr
  have hpos : 0 < (Nat.toDigits 10 n).length := Nat.length_toDigits_pos
  rw [readBelow, decimal, hrun]
  simp only [hvalue]
  exact if_neg (by omega)

theorem readOctet_decimal (b : UInt8) (hr : NoDigit 10 rest) :
    readOctet (decimal b.toNat ++ rest) = some (b, rest) := by
  obtain ⟨ds, hrun, hvalue, hlength, hzero⟩ := digitRun_toDigits (by decide) (by decide) b.toNat hr
  have hpos : 0 < (Nat.toDigits 10 b.toNat).length := Nat.length_toDigits_pos
  have hbyte : b.toNat < 256 := b.toNat_lt
  have hshort : (Nat.toDigits 10 b.toNat).length ≤ 3 :=
    (Nat.length_toDigits_le_iff (by decide) (by decide)).mpr (by omega)
  have hfirst : ¬(1 < ds.length ∧ ds.head? = some 0) := by
    rintro ⟨hlong, hhead⟩
    rw [hlength, hzero hhead] at hlong
    exact absurd hlong (by decide)
  have hfits : ¬(ds.length = 0 ∨ 3 < ds.length ∨ (1 < ds.length ∧ ds.head? = some 0) ∨
      256 ≤ b.toNat) := by
    rintro (h | h | h | h)
    · omega
    · omega
    · exact hfirst h
    · omega
  rw [readOctet, decimal, hrun]
  simp only [hvalue]
  rw [if_neg hfits, UInt8.ofNat_toNat]

theorem readGroup_hexadecimal (g : UInt16) (hr : NoDigit 16 rest) :
    readGroup (Nat.toDigits 16 g.toNat ++ rest) = some (g, rest) := by
  obtain ⟨ds, hrun, hvalue, hlength, _⟩ := digitRun_toDigits (by decide) (by decide) g.toNat hr
  have hpos : 0 < (Nat.toDigits 16 g.toNat).length := Nat.length_toDigits_pos
  have hword : g.toNat < 65536 := g.toNat_lt
  have hshort : (Nat.toDigits 16 g.toNat).length ≤ 4 :=
    (Nat.length_toDigits_le_iff (by decide) (by decide)).mpr (by omega)
  rw [readGroup, hrun]
  simp only [hvalue]
  rw [if_neg (by omega), UInt16.ofNat_toNat]

/-! ### Version 4 -/

theorem noDigit_point (cs : List Char) : NoDigit 10 ('.' :: cs) := noDigit_cons (by decide) cs

theorem readIpv4_chars (x : Ipv4) (hr : NoDigit 10 rest) :
    readIpv4 (x.chars ++ rest) = some (x, rest) := by
  simp only [readIpv4, Ipv4.chars, List.append_assoc, List.cons_append, readChar_cons,
    readOctet_decimal _ (noDigit_point _), readOctet_decimal _ hr, Option.bind_eq_bind,
    Option.bind_some, Option.pure_def]

end Numbers

/-! ### Groups -/

/-- What follows an address of version 6 inside brackets. -/
inductive EndsAddress : Char → Prop
  | bracket : EndsAddress ']'
  | scope : EndsAddress '%'

/-- What follows a group. -/
inductive EndsGroup : Char → Prop
  | colon : EndsGroup ':'
  | address {c : Char} (h : EndsAddress c) : EndsGroup c

theorem EndsGroup.no_digit_point {c : Char} (h : EndsGroup c) :
    digitIn? 10 c = none ∧ digitIn? 16 c = none ∧ c ≠ '.' := by
  rcases h with _ | ⟨_ | _⟩ <;> decide

/-- What is left after the decimal digits of a text does not go on with a point if there is none in
the text. -/
theorem readChar_point_of_digitRun {cs rest tail : List Char} {ds : List Nat} {c : Char}
    (hcs : '.' ∉ cs) (hc : EndsGroup c) (hrun : digitRun 10 (cs ++ c :: rest) = (ds, tail)) :
    readChar '.' tail = none := by
  obtain ⟨hdigit, _, hpoint⟩ := hc.no_digit_point
  obtain ⟨front, heq, hfront, _⟩ := exists_digits_of_digitRun hrun
  -- `c` is no digit, so the digits end before it or right there.
  rcases List.append_eq_append_iff.mp heq with ⟨as, rfl, htail⟩ | ⟨bs, rfl, rfl⟩
  · cases as with
    | nil =>
      rw [List.nil_append] at htail
      rw [← htail]
      exact readChar_ne hpoint rest
    | cons d as =>
      obtain ⟨rfl, _⟩ := List.cons.inj htail
      exact absurd (by simp) (hfront.not_mem hdigit)
  · cases bs with
    | nil => exact readChar_ne hpoint rest
    | cons d bs =>
      refine readChar_ne (fun hd => hcs ?_) (bs ++ c :: rest)
      simp [hd]

/-- A group that no point follows does not begin an address of version 4, even if its digits are
decimal ones. -/
theorem readIpv4_group (g : UInt16) {c : Char} (hc : EndsGroup c) (rest : List Char) :
    readIpv4 (Nat.toDigits 16 g.toNat ++ c :: rest) = none := by
  have hgroup : '.' ∉ Nat.toDigits 16 g.toNat := by
    intro hmem
    obtain ⟨d, hd, heq⟩ := exists_digitChar_of_mem_toDigits (by decide) hmem
    exact Nat.digitChar_ne '.' (by decide) heq.symm
  cases hoctet : readOctet (Nat.toDigits 16 g.toNat ++ c :: rest) with
  | none => simp [readIpv4, hoctet]
  | some p =>
    obtain ⟨b, tail⟩ := p
    obtain ⟨ds, hrun⟩ := digitRun_of_readOctet hoctet
    simp [readIpv4, hoctet, readChar_point_of_digitRun hgroup hc hrun]

/-- The colon before what does not come first. -/
def colon (first : Bool) : List Char := if first then [] else [':']

/-- Groups in hexadecimal, with a colon before each but the first of all. -/
def groupsText : Bool → List UInt16 → List Char
  | _, [] => []
  | first, g :: gs => colon first ++ (Nat.toDigits 16 g.toNat ++ groupsText false gs)

theorem groupChars_eq (gs : List UInt16) : groupChars gs = groupsText true gs := by
  induction gs with
  | nil => rfl
  | cons g gs ih =>
    cases gs with
    | nil => exact (List.append_nil _).symm
    | cons h gs =>
      rw [groupChars, ih]
      · rfl
      · exact List.cons_ne_nil h gs

/-- What follows the last group before the end of an address or before its gap. -/
inductive EndsGroups : List Char → Prop
  | address {c : Char} (hc : EndsAddress c) (rest : List Char) : EndsGroups (c :: rest)
  | gap (rest : List Char) : EndsGroups (':' :: ':' :: rest)

theorem readAfterColon_colon {α : Type} (first : Bool) (read : List Char → Option (α × List Char))
    (cs : List Char) : readAfterColon first read (colon first ++ cs) = read cs := by
  cases first <;> rfl

theorem readGroups_end {rest : List Char} (h : EndsGroups rest) (limit : Nat) (first : Bool) :
    readGroups limit first rest = ([], false, rest) := by
  have hnone : readAfterColon first readIpv4 rest = none ∧
      readAfterColon first readGroup rest = none := by
    cases h with
    | address hc rest => cases hc <;> cases first <;> exact ⟨rfl, rfl⟩
    | gap rest => cases first <;> exact ⟨rfl, rfl⟩
  cases limit with
  | zero => rfl
  | succ limit => simp [readGroups, hnone]

theorem readGroups_group (g : UInt16) {c : Char} (hc : EndsGroup c) (rest : List Char)
    (limit : Nat) (first : Bool) :
    readGroups (limit + 1) first (colon first ++ (Nat.toDigits 16 g.toNat ++ c :: rest)) =
      (g :: (readGroups limit false (c :: rest)).1, (readGroups limit false (c :: rest)).2) := by
  have hend : NoDigit 16 (c :: rest) := noDigit_cons hc.no_digit_point.2.1 rest
  simp only [readGroups, readAfterColon_colon, readIpv4_group g hc, readGroup_hexadecimal g hend,
    ite_self]

theorem readGroups_text {gs : List UInt16} {rest : List Char} (h : EndsGroups rest) {limit : Nat}
    (hl : gs.length ≤ limit) (first : Bool) :
    readGroups limit first (groupsText first gs ++ rest) = (gs, false, rest) := by
  induction gs generalizing limit first with
  | nil => exact readGroups_end h limit first
  | cons g gs ih =>
    obtain ⟨c, tail, hc, htail⟩ :
        ∃ c tail, EndsGroup c ∧ groupsText false gs ++ rest = c :: tail := by
      cases gs with
      | cons g gs => exact ⟨':', _, .colon, rfl⟩
      | nil =>
        cases h with
        | address hc rest => exact ⟨_, rest, .address hc, rfl⟩
        | gap rest => exact ⟨':', ':' :: rest, .colon, rfl⟩
    obtain ⟨limit, rfl⟩ : ∃ n, limit = n + 1 := ⟨limit - 1, by rw [List.length_cons] at hl; omega⟩
    rw [groupsText, List.append_assoc, List.append_assoc, htail, readGroups_group g hc, ← htail,
      ih (by simpa using hl)]

theorem readGroups_ipv4 (x : Ipv4) {rest : List Char} (hr : NoDigit 10 rest) (limit : Nat)
    (first : Bool) :
    readGroups (limit + 2) first (colon first ++ (x.chars ++ rest)) =
      ([x.groups.1, x.groups.2], true, rest) := by
  simp [readGroups, readAfterColon_colon, readIpv4_chars x hr]

/-! ### Runs of zeros -/

/-- The groups are zeros from a start on, for a length. -/
def ZeroRun (gs : List UInt16) (run : Nat × Nat) : Prop :=
  ∃ front back, gs = front ++ (List.replicate run.2 0 ++ back) ∧ front.length = run.1

theorem zeroRun_leadingZeros (front gs : List UInt16) :
    ZeroRun (front ++ gs) (front.length, leadingZeros gs) := by
  have hzeros : gs.takeWhile (· = 0) = List.replicate (leadingZeros gs) 0 :=
    List.eq_replicate_of_mem fun g hg => by simpa using List.mem_takeWhile_imp hg
  refine ⟨front, gs.dropWhile (· = 0), ?_, rfl⟩
  rw [← hzeros, List.takeWhile_append_dropWhile]

theorem zeroRun_longestRun {best : Nat × Nat} (front back : List UInt16)
    (h : ZeroRun (front ++ back) best) :
    ZeroRun (front ++ back) (longestRun best front.length back) := by
  induction back generalizing best front with
  | nil => exact h
  | cons g gs ih =>
    have hsplit : front ++ g :: gs = (front ++ [g]) ++ gs := by simp
    let here := (front.length, leadingZeros (g :: gs))
    have hbest : ZeroRun (front ++ g :: gs) (if best.2 < here.2 then here else best) := by
      split
      · exact zeroRun_leadingZeros front (g :: gs)
      · exact h
    rw [hsplit] at hbest
    have hrest := ih (front ++ [g]) hbest
    rw [List.length_append, List.length_singleton, ← hsplit] at hrest
    exact hrest

/-! ### Version 6 -/

theorem readIpv6_groups {gs : List UInt16} (h : gs.length = 8) {c : Char} (hc : EndsAddress c)
    (rest : List Char) :
    readIpv6 (groupChars gs ++ c :: rest) = some (⟨gs, h⟩, c :: rest) := by
  have hhead : readGroups 8 true (groupChars gs ++ c :: rest) = (gs, false, c :: rest) := by
    rw [groupChars_eq]
    exact readGroups_text (.address hc rest) (by omega) true
  simp [readIpv6, hhead, h, Ipv6.ofGroups?]

/-- An address with a gap has zeros there, as many as it takes. -/
theorem readIpv6_gap (front : List UInt16) {back : List UInt16} {embedded : Bool}
    {cs rest : List Char} {x : Ipv6}
    (hback : readGroups (7 - front.length) true cs = (back, embedded, rest))
    (hx : x.groups = front ++ List.replicate (8 - front.length - back.length) 0 ++ back)
    (hfront : front.length < 8) :
    readIpv6 (groupChars front ++ ':' :: ':' :: cs) = some (x, rest) := by
  have hhead : readGroups 8 true (groupChars front ++ ':' :: ':' :: cs) =
      (front, false, ':' :: ':' :: cs) := by
    rw [groupChars_eq]
    exact readGroups_text (.gap cs) (by omega) true
  have hgroups : Ipv6.ofGroups? x.groups = some x := dif_pos x.eight
  rw [readIpv6, hhead]
  dsimp only
  rw [if_neg (by omega), if_neg Bool.false_ne_true]
  simp only [readChar_cons, Option.bind_eq_bind, Option.bind_some, hback, ← hx, hgroups,
    Option.map_some]

theorem ofNat_bytes (g : UInt16) :
    UInt16.ofNat (256 * (UInt8.ofNat (g.toNat / 256)).toNat +
      (UInt8.ofNat (g.toNat % 256)).toNat) = g := by
  have hg : g.toNat < 65536 := g.toNat_lt
  have hhigh : g.toNat / 256 < 256 := by omega
  have hlow : g.toNat % 256 < 256 := by omega
  rw [UInt8.toNat_ofNat_of_lt' hhigh, UInt8.toNat_ofNat_of_lt' hlow, Nat.div_add_mod,
    UInt16.ofNat_toNat]

theorem groups_ofGroups (hi lo : UInt16) : (Ipv4.ofGroups hi lo).groups = (hi, lo) :=
  Prod.ext (ofNat_bytes hi) (ofNat_bytes lo)

section Version6

variable {x : Ipv6} {c : Char}

/-- The address of version 4 stands for the last two groups, and one group stands before it after
the gap. -/
theorem readIpv6_mapped {hi lo : UInt16} (hx : x.groups = [0, 0, 0, 0, 0, 0xFFFF, hi, lo])
    (hc : EndsAddress c) (rest : List Char) :
    readIpv6 ([':', ':', 'f', 'f', 'f', 'f', ':'] ++ (Ipv4.ofGroups hi lo).chars ++ c :: rest) =
      some (x, c :: rest) := by
  let v4 := (Ipv4.ofGroups hi lo).chars
  have hv4 : readGroups 6 false (':' :: (v4 ++ c :: rest)) = ([hi, lo], true, c :: rest) := by
    have hdigit : digitIn? 10 c = none := (EndsGroup.address hc).no_digit_point.1
    have h := readGroups_ipv4 (Ipv4.ofGroups hi lo) (noDigit_cons hdigit rest) 4 false
    rw [groups_ofGroups] at h
    exact h
  have hback : readGroups 7 true (['f', 'f', 'f', 'f', ':'] ++ v4 ++ c :: rest) =
      ([0xFFFF, hi, lo], true, c :: rest) := by
    have h := readGroups_group 0xFFFF .colon (v4 ++ c :: rest) 6 true
    rw [hv4] at h
    exact h
  exact readIpv6_gap [] hback hx (by decide)

/-- A run of zeros is read from the gap that it leaves. -/
theorem readIpv6_run {start length : Nat} (hrun : ZeroRun x.groups (start, length))
    (hlong : 0 < length) (hc : EndsAddress c) (rest : List Char) :
    readIpv6 (groupChars (x.groups.take start) ++ ':' :: ':' ::
        (groupChars (x.groups.drop (start + length)) ++ c :: rest)) = some (x, c :: rest) := by
  obtain ⟨front, back, hsplit, hstart⟩ := hrun
  obtain rfl : front.length = start := hstart
  dsimp only at hsplit
  have htotal : front.length + (length + back.length) = 8 := by
    rw [← x.eight, hsplit]
    simp
  have htake : x.groups.take front.length = front := by rw [hsplit, List.take_left]
  have hdrop : x.groups.drop (front.length + length) = back := by
    rw [hsplit, ← List.append_assoc]
    exact List.drop_left' (by simp)
  have hback : readGroups (7 - front.length) true (groupChars back ++ c :: rest) =
      (back, false, c :: rest) := by
    rw [groupChars_eq]
    exact readGroups_text (.address hc rest) (by omega) true
  have hlength : 8 - front.length - back.length = length := by omega
  rw [htake, hdrop]
  refine readIpv6_gap front hback ?_ (by omega)
  rw [hlength, List.append_assoc]
  exact hsplit

theorem readIpv6_chars (x : Ipv6) (hc : EndsAddress c) (rest : List Char) :
    readIpv6 (x.chars ++ c :: rest) = some (x, c :: rest) := by
  rw [Ipv6.chars]
  split
  · next hi lo hx => exact readIpv6_mapped hx hc rest
  · have hnone : ZeroRun ([] ++ x.groups) (0, 0) := ⟨[], x.groups, rfl, rfl⟩
    have hrun := zeroRun_longestRun [] x.groups hnone
    simp only [List.nil_append, List.length_nil] at hrun
    generalize longestRun (0, 0) 0 x.groups = run at hrun ⊢
    obtain ⟨start, length⟩ := run
    dsimp only
    split
    · next hlong =>
      rw [List.append_assoc]
      exact readIpv6_run hrun (by omega) hc rest
    · exact readIpv6_groups x.eight hc rest

end Version6

/-! ### Before a port -/

theorem readScope_bracket (rest : List Char) : readScope (']' :: rest) = (0, ']' :: rest) := rfl

theorem readScope_decimal (scope : UInt32) (rest : List Char) :
    readScope ('%' :: (decimal scope.toNat ++ ']' :: rest)) = (scope, ']' :: rest) := by
  have hnumber : readBelow 0x100000000 (decimal scope.toNat ++ ']' :: rest) =
      some (scope.toNat, ']' :: rest) :=
    readBelow_decimal scope.toNat_lt (noDigit_cons (by decide) rest)
  rw [readScope, readChar_cons, Option.bind_some, hnumber]
  simp

theorem readBracketed_hostChars (x : Ipv6) (scope : UInt32) (rest : List Char) :
    readBracketed ((IpAddress.v6 x scope).hostChars ++ rest) = some (.v6 x scope, rest) := by
  simp only [IpAddress.hostChars, readBracketed, List.cons_append, List.append_assoc,
    List.nil_append, readChar_cons, Option.bind_eq_bind, Option.bind_some]
  split
  · next hscope =>
    simp [readIpv6_chars x .bracket, readScope_bracket, readChar_cons, hscope]
  · simp [readIpv6_chars x .scope, readScope_decimal, readChar_cons]

theorem readHost_hostChars (x : IpAddress) (rest : List Char) :
    readHost (x.hostChars ++ ':' :: rest) = some (x, ':' :: rest) := by
  cases x with
  | v4 x => rw [readHost, IpAddress.hostChars, readIpv4_chars x (noDigit_cons (by decide) rest)]
  | v6 x scope =>
    have hv4 : readIpv4 ((IpAddress.v6 x scope).hostChars ++ ':' :: rest) = none := rfl
    rw [readHost, hv4, readBracketed_hostChars]

theorem readBelow_port (port : UInt16) :
    readBelow 65536 (decimal port.toNat) = some (port.toNat, []) := by
  have h := readBelow_decimal port.toNat_lt (noDigit_nil 10)
  rwa [List.append_nil] at h

/-- Every address with a port is what its text is read as. -/
theorem parse?_text (x : SocketAddress) : SocketAddress.parse? x.text = some x := by
  simp [SocketAddress.parse?, SocketAddress.text, readHost_hostChars, readChar_cons, readBelow_port]

end WindowGateway.Address
