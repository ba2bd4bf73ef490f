import Mathlib.Data.List.Infix
import Mathlib.Data.List.Perm.Basic
import WindowGateway.Proofs.Builtin.Chain

/-! What the order of a batch has a say in. The teams of a batch, their totals and their records are
the same in every order, but for the order of the records. The sums on the way to a total are not:
one order may take a total out of 64 bits where another does not, and then the call fails. -/

namespace WindowGateway

open Wire (CollectionBytes decodeCollection_eq_ok_iff encodeCollection)
open Json (Document)

namespace Builtin

/-! ### Contributions in another order -/

section Order

variable {cs ds : List Contribution}

theorem amountsOf_perm (h : cs.Perm ds) (key : String) :
    (amountsOf key cs).Perm (amountsOf key ds) :=
  (h.filter _).map _

theorem totalOf_perm (h : cs.Perm ds) (key : String) : totalOf key cs = totalOf key ds :=
  (amountsOf_perm h key).sum_eq

theorem keysOf_perm (h : cs.Perm ds) : (keysOf cs).Perm (keysOf ds) :=
  eraseDups_perm (h.map _)

theorem teamRecord_perm (headers : Headers) (h : cs.Perm ds) :
    TeamRecord headers cs = TeamRecord headers ds := by
  funext team record
  rw [TeamRecord, TeamRecord, totalOf_perm h]

end Order

/-! ### Gains and losses -/

section Gains

variable {cs ds : List Contribution} {key : String}

/-- The contributions that add to a total. -/
def gains (cs : List Contribution) : List Contribution := cs.filter (0 < ·.amount)

/-- The contributions that add nothing to a total. -/
def losses (cs : List Contribution) : List Contribution := cs.filter (·.amount ≤ 0)

/-- Neither the gains for a key nor its losses leave 64 bits if they are added up by themselves. -/
def Confined (cs : List Contribution) : Prop :=
  ∀ key, IsInt64 (totalOf key (gains cs)) ∧ IsInt64 (totalOf key (losses cs))

theorem amountsOf_filter (p : Int → Bool) :
    amountsOf key (cs.filter (p ·.amount)) = (amountsOf key cs).filter p := by
  rw [amountsOf, amountsOf, List.filter_map, List.filter_filter, List.filter_filter]
  simp only [Function.comp_def, Bool.and_comm]

theorem gains_append_losses_perm (cs : List Contribution) : (gains cs ++ losses cs).Perm cs := by
  have hlosses : losses cs = cs.filter fun c => !decide (0 < c.amount) := by
    refine List.filter_congr fun c _ => ?_
    rw [← decide_not, decide_eq_decide, Int.not_lt]
  rw [hlosses]
  exact List.filter_append_perm _ cs

theorem sum_gains_cons (n : Int) (amounts : List Int) :
    ((n :: amounts).filter (0 < ·)).sum = max n 0 + (amounts.filter (0 < ·)).sum := by
  rcases Int.lt_or_le 0 n with hn | hn
  · rw [List.filter_cons_of_pos (by simpa using hn), List.sum_cons]
    omega
  · rw [List.filter_cons_of_neg (by simpa using hn)]
    omega

theorem sum_losses_cons (n : Int) (amounts : List Int) :
    ((n :: amounts).filter (· ≤ 0)).sum = min n 0 + (amounts.filter (· ≤ 0)).sum := by
  rcases Int.lt_or_le 0 n with hn | hn
  · rw [List.filter_cons_of_neg (by simpa using hn)]
    omega
  · rw [List.filter_cons_of_pos (by simpa using hn), List.sum_cons]
    omega

/-- No part of the amounts sums up to more than all gains, or to less than all losses. -/
theorem sublist_sum_bounds {amounts part : List Int} (h : part.Sublist amounts) :
    (amounts.filter (· ≤ 0)).sum ≤ part.sum ∧ part.sum ≤ (amounts.filter (0 < ·)).sum := by
  induction h with
  | slnil => decide
  | cons n _ ih =>
    rw [sum_gains_cons, sum_losses_cons]
    omega
  | cons_cons n _ ih =>
    rw [sum_gains_cons, sum_losses_cons, List.sum_cons]
    omega

theorem Confined.bounded (h : Confined cs) : Bounded cs := by
  intro key front hfront
  obtain ⟨hlow, hhigh⟩ := sublist_sum_bounds hfront.sublist
  obtain ⟨hgains, hlosses⟩ := h key
  rw [totalOf, gains, amountsOf_filter (0 < ·)] at hgains
  rw [totalOf, losses, amountsOf_filter (· ≤ 0)] at hlosses
  exact ⟨Int.le_trans hlosses.1 hlow, Int.lt_of_le_of_lt hhigh hgains.2⟩

theorem Confined.perm (h : Confined cs) (hperm : cs.Perm ds) : Confined ds := by
  intro key
  have hgains : (gains cs).Perm (gains ds) := hperm.filter _
  have hlosses : (losses cs).Perm (losses ds) := hperm.filter _
  rw [← totalOf_perm hgains, ← totalOf_perm hlosses]
  exact h key

/-- Every order keeps the totals in 64 bits just if that which takes all gains first does, and that
which takes all losses first. -/
theorem confined_iff : Confined cs ↔ ∀ ds, cs.Perm ds → Bounded ds := by
  constructor
  · exact fun h ds hperm => (h.perm hperm).bounded
  · intro h key
    have hperm := (gains_append_losses_perm cs).symm
    exact ⟨(h _ hperm).of_append.total key,
      (h _ (hperm.trans List.perm_append_comm)).of_append.total key⟩

end Gains

/-! ### Batches in another order -/

section Items

variable {items others : List (List UInt8)} {cs ds : List Contribution}

theorem rightUnique_teamItem : Relator.RightUnique TeamItem := by
  intro item c e hc he
  exact teamScore.rightUnique_reads (teamScore_reads_iff.mpr hc) (teamScore_reads_iff.mpr he)

theorem teamEntries_of_items (h : List.Forall₂ TeamItem items cs) :
    ∀ c ∈ cs, ∃ team n, teamEntry team n = c := by
  induction h with
  | nil => exact List.forall_mem_nil _
  | cons hitem _ ih =>
    refine List.forall_mem_cons.mpr ⟨?_, ih⟩
    cases hitem
    exact ⟨_, _, rfl⟩

/-- Items can be read in every order if they can in one, and contribute the same. -/
theorem teamItems_perm (hperm : items.Perm others) (h : List.Forall₂ TeamItem items cs) :
    ∃ ds, List.Forall₂ TeamItem others ds ∧ cs.Perm ds := by
  obtain ⟨ds, hds, hsame⟩ := List.perm_comp_forall₂ hperm.symm h
  exact ⟨ds, hds, hsame.symm⟩

/-- Every order of the contributions is that of a batch. -/
theorem exists_items_perm (hperm : cs.Perm ds) (h : List.Forall₂ TeamItem items cs) :
    ∃ others, List.Forall₂ TeamItem others ds ∧ items.Perm others := by
  obtain ⟨others, hothers, hsame⟩ := List.perm_comp_forall₂ hperm.symm h.flip
  exact ⟨others, hothers.flip, hsame.symm⟩

/-- Every item can be read, and in this order some total leaves 64 bits on the way. -/
def Overflows (items : List (List UInt8)) : Prop :=
  ∃ cs, List.Forall₂ TeamItem items cs ∧ ¬Bounded cs

theorem bounded_of_not_overflows (h : ¬Overflows items) (hcs : List.Forall₂ TeamItem items cs) :
    Bounded cs := by
  by_contra hn
  exact h ⟨cs, hcs, hn⟩

theorem not_overflows_of_bounded (hcs : List.Forall₂ TeamItem items cs) (h : Bounded cs) :
    ¬Overflows items := by
  rintro ⟨ds, hds, hn⟩
  obtain rfl : cs = ds := rightUnique_teamItem.forall₂ hcs hds
  exact hn h

end Items

/-! ### Overflows that can be checked -/

instance (cs : List Contribution) : Decidable (Bounded cs) :=
  decidable_of_iff (∀ key ∈ keysOf cs, ∀ front ∈ (amountsOf key cs).inits, IsInt64 front.sum) (by
    simp only [List.mem_inits]
    constructor
    · intro h key front hfront
      by_cases hkey : key ∈ keysOf cs
      · exact h key hkey front hfront
      · rw [amountsOf_of_not_mem hkey] at hfront
        exact bounded_nil key front hfront
    · exact fun h key _ front hfront => h key front hfront)

/-- What the items contribute to their teams, if all of them can be read. -/
def teamContributions? : List (List UInt8) → Option (List Contribution)
  | [] => some []
  | item :: items => do
    let d ← document? item
    let c ← (teamScore.contribution d).toOption
    let cs ← teamContributions? items
    pure (c :: cs)

theorem teamContributions?_eq_some_iff {items : List (List UInt8)} {cs : List Contribution} :
    teamContributions? items = some cs ↔ List.Forall₂ TeamItem items cs := by
  induction items generalizing cs with
  | nil =>
    rw [List.forall₂_nil_left_iff]
    exact ⟨fun h => (Option.some.inj h).symm, fun h => congrArg some h.symm⟩
  | cons item items ih =>
    simp only [List.forall₂_cons_left_iff, ← teamScore_reads_iff, Tally.Reads, teamContributions?,
      Option.bind_eq_bind, Option.bind_eq_some_iff, document?_eq_some_iff, toOption_eq_some_iff, ih]
    constructor
    · rintro ⟨d, hd, c, hc, cs, hcs, hsome⟩
      exact ⟨c, cs, ⟨d, hd, hc⟩, hcs, (Option.some.inj hsome).symm⟩
    · rintro ⟨c, cs, ⟨d, hd, hc⟩, hcs, rfl⟩
      exact ⟨d, hd, c, hc, cs, hcs, rfl⟩

instance (items : List (List UInt8)) : Decidable (Overflows items) :=
  decidable_of_iff (∃ cs ∈ teamContributions? items, ¬Bounded cs) (by
    simp only [Option.mem_def, teamContributions?_eq_some_iff]
    rfl)

end Builtin

open Builtin

/-! ### Replies -/

/-- How a call for the scores of the teams ends. -/
def scoreTeams (threshold : Nat) (headers : Headers) (payload : List UInt8) :
    Except Interruption Envelope :=
  ((Udf.teamScore.handler threshold).answer ⟨headers, payload⟩).result

/-- The end of a call by a total that leaves 64 bits. -/
def totalOverflow : Interruption :=
  .error (.hook .accumulate (FieldFault.overflow "totalScore").message)

/-- A reply to items that can be read, and keep the totals in 64 bits in their order: the records of
the teams, in the order in which each came first. -/
def TeamReply (headers : Headers) (items : List (List UInt8)) (records : List Document)
    (reply : Envelope) : Prop :=
  ∃ cs, List.Forall₂ TeamItem items cs ∧ Bounded cs ∧
    List.Forall₂ (TeamRecord headers cs) (keysOf cs) records ∧
    reply = ⟨OrderedMap.empty.insert Headers.contentType "multipart/json",
      encodeCollection (records.map Document.bytes)⟩

section Replies

variable {threshold : Nat} {headers : Headers} {payload other : List UInt8}
  {items others : List (List UInt8)} {cs : List Contribution} {records records' : List Document}
  {reply reply' : Envelope}

theorem announce_of_scoreTeams (h : scoreTeams threshold headers payload = .ok reply) :
    headers.Announce .batch := by
  have hreply : ((Udf.teamScore.handler threshold).answer ⟨headers, payload⟩).result =
    .ok reply := h
  exact (stages_of_reply hreply).1

theorem scoreTeams_bounded (threshold : Nat) (ha : headers.Announce .batch)
    (hitems : CollectionBytes payload items) (hcs : List.Forall₂ TeamItem items cs)
    (hbounded : Bounded cs) :
    ∃ records reply, scoreTeams threshold headers payload = .ok reply ∧
      TeamReply headers items records reply := by
  have hteams : AnswersTally (Udf.teamScore.handler threshold) "totalScore" TeamItem
      ⟨headers, payload⟩ items := teamScore_answersTally threshold ha hitems
  obtain ⟨reply, hreply⟩ := hteams.succeeds.mpr ⟨cs, hcs, hbounded⟩
  obtain ⟨records, hrecords, hsent⟩ := hteams.emits reply cs hreply hcs
  have hentries := teamEntries_of_items hcs
  exact ⟨records, reply, hreply, cs, hcs, hbounded,
    hrecords.imp fun _ _ hr => hr.team hentries, hsent⟩

theorem teamReply_of_scoreTeams (hitems : CollectionBytes payload items)
    (h : scoreTeams threshold headers payload = .ok reply) :
    ∃ records, TeamReply headers items records reply := by
  have ha := announce_of_scoreTeams h
  have hteams : AnswersTally (Udf.teamScore.handler threshold) "totalScore" TeamItem
      ⟨headers, payload⟩ items := teamScore_answersTally threshold ha hitems
  obtain ⟨cs, hcs, hbounded⟩ := hteams.succeeds.mp ⟨reply, h⟩
  obtain ⟨records, found, hfound, hreply⟩ := scoreTeams_bounded threshold ha hitems hcs hbounded
  obtain rfl : reply = found := Except.ok.inj (h.symm.trans hfound)
  exact ⟨records, hreply⟩

theorem scoreTeams_answered_iff (hitems : CollectionBytes payload items) :
    (∃ reply, scoreTeams threshold headers payload = .ok reply) ↔
      headers.Announce .batch ∧ (∃ cs, List.Forall₂ TeamItem items cs) ∧ ¬Overflows items := by
  constructor
  · rintro ⟨reply, hreply⟩
    obtain ⟨_, cs, hcs, hbounded, _⟩ := teamReply_of_scoreTeams hitems hreply
    exact ⟨announce_of_scoreTeams hreply, ⟨cs, hcs⟩, not_overflows_of_bounded hcs hbounded⟩
  · rintro ⟨ha, ⟨cs, hcs⟩, hno⟩
    obtain ⟨_, reply, hreply, _⟩ :=
      scoreTeams_bounded threshold ha hitems hcs (bounded_of_not_overflows hno hcs)
    exact ⟨reply, hreply⟩

theorem scoreTeams_overflow (threshold : Nat) (ha : headers.Announce .batch)
    (hitems : CollectionBytes payload items) (h : Overflows items) :
    scoreTeams threshold headers payload = .error totalOverflow := by
  obtain ⟨cs, hcs, hoverflow⟩ := h
  have hreads : List.Forall₂ teamScore.Reads items cs :=
    hcs.imp fun _ _ hitem => teamScore_reads_iff.mpr hitem
  have hfold := fold_overflow headers teamScore_proper hreads hoverflow
  exact answer_of_aggregate_error ha
    (aggregate_unfolded (decodeCollection_eq_ok_iff.mpr hitems) hfold)

/-- Two replies to one batch in two orders have the same records, in orders of their own. -/
theorem TeamReply.perm (hperm : items.Perm others) (h : TeamReply headers items records reply)
    (h' : TeamReply headers others records' reply') : records.Perm records' := by
  obtain ⟨cs, hcs, _, hrecords, _⟩ := h
  obtain ⟨ds, hds, _, hrecords', _⟩ := h'
  obtain ⟨es, hes, hsame⟩ := teamItems_perm hperm hcs
  obtain rfl : ds = es := rightUnique_teamItem.forall₂ hds hes
  rw [← teamRecord_perm headers hsame] at hrecords'
  exact List.rel_perm_imp (rightUnique_teamRecord headers cs) hrecords hrecords' (keysOf_perm hsame)

/-- If a batch is answered in one order, then in another it is answered too or overflows, as the
totals on the way have it. -/
theorem scoreTeams_perm (hitems : CollectionBytes payload items)
    (hothers : CollectionBytes other others) (hperm : items.Perm others)
    (h : scoreTeams threshold headers payload = .ok reply) :
    (¬Overflows others ∧ ∃ reply', scoreTeams threshold headers other = .ok reply') ∨
      (Overflows others ∧ scoreTeams threshold headers other = .error totalOverflow) := by
  have ha := announce_of_scoreTeams h
  obtain ⟨_, ⟨cs, hcs⟩, _⟩ := (scoreTeams_answered_iff hitems).mp ⟨reply, h⟩
  obtain ⟨ds, hds, _⟩ := teamItems_perm hperm hcs
  by_cases hoverflow : Overflows others
  · exact .inr ⟨hoverflow, scoreTeams_overflow threshold ha hothers hoverflow⟩
  · exact .inl ⟨hoverflow, (scoreTeams_answered_iff hothers).mpr ⟨ha, ⟨ds, hds⟩, hoverflow⟩⟩

/-- Every order of a batch is answered just if no team's gains and no team's losses leave 64 bits if
they are added up by themselves. -/
theorem scoreTeams_everyOrder_iff (threshold : Nat) (ha : headers.Announce .batch)
    (hfits : Wire.Fits items) (hcs : List.Forall₂ TeamItem items cs) :
    (∀ others, items.Perm others →
      ∃ reply, scoreTeams threshold headers (encodeCollection others) = .ok reply) ↔
      Confined cs := by
  have hbytes {others : List (List UInt8)} (hperm : items.Perm others) :
      CollectionBytes (encodeCollection others) others :=
    Wire.collectionBytes_encodeCollection fun item hmem => hfits item (hperm.mem_iff.mpr hmem)
  rw [confined_iff]
  constructor
  · intro h ds hsame
    obtain ⟨others, hds, hperm⟩ := exists_items_perm hsame hcs
    obtain ⟨reply, hreply⟩ := h others hperm
    obtain ⟨_, es, hes, hbounded, _⟩ := teamReply_of_scoreTeams (hbytes hperm) hreply
    obtain rfl : ds = es := rightUnique_teamItem.forall₂ hds hes
    exact hbounded
  · intro h others hperm
    obtain ⟨ds, hds, hsame⟩ := teamItems_perm hperm hcs
    obtain ⟨_, reply, hreply, _⟩ := scoreTeams_bounded threshold ha (hbytes hperm) hds (h ds hsame)
    exact ⟨reply, hreply⟩

/-- What the order of a batch has a say in, and what not. A call succeeds just if every item can be
read and no total leaves 64 bits on the way; it succeeds on both of two orders or on neither, unless
a total leaves 64 bits in one of them. This is the only reason for which one order fails where the
other succeeds, and the fault says so. Where both succeed, the replies have the same records, up to
their order. -/
structure Orderless (threshold : Nat) (headers : Headers) (payload other : List UInt8)
    (items others : List (List UInt8)) : Prop where
  answered : (∃ reply, scoreTeams threshold headers payload = .ok reply) ↔
    headers.Announce .batch ∧ (∃ cs, List.Forall₂ TeamItem items cs) ∧ ¬Overflows items
  succeeds : ¬Overflows items → ¬Overflows others →
    ((∃ reply, scoreTeams threshold headers payload = .ok reply) ↔
      ∃ reply, scoreTeams threshold headers other = .ok reply)
  overflows : ∀ reply, scoreTeams threshold headers payload = .ok reply →
    ((∃ reply', scoreTeams threshold headers other = .ok reply') ↔ ¬Overflows others) ∧
    (scoreTeams threshold headers other = .error totalOverflow ↔ Overflows others)
  records : ∀ reply reply', scoreTeams threshold headers payload = .ok reply →
    scoreTeams threshold headers other = .ok reply' →
    ∃ records records', TeamReply headers items records reply ∧
      TeamReply headers others records' reply' ∧ records.Perm records'

theorem teamScore_orderless (threshold : Nat) (headers : Headers)
    (hitems : CollectionBytes payload items) (hothers : CollectionBytes other others)
    (hperm : items.Perm others) : Orderless threshold headers payload other items others where
  answered := scoreTeams_answered_iff hitems
  succeeds hin hout := by
    constructor
    · rintro ⟨reply, hreply⟩
      rcases scoreTeams_perm hitems hothers hperm hreply with ⟨_, h⟩ | ⟨h, _⟩
      · exact h
      · exact absurd h hout
    · rintro ⟨reply, hreply⟩
      rcases scoreTeams_perm hothers hitems hperm.symm hreply with ⟨_, h⟩ | ⟨h, _⟩
      · exact h
      · exact absurd h hin
  overflows reply hreply := by
    rcases scoreTeams_perm hitems hothers hperm hreply with ⟨hno, reply', hreply'⟩ | ⟨hyes, herror⟩
    · refine ⟨iff_of_true ⟨reply', hreply'⟩ hno, iff_of_false (fun h => ?_) hno⟩
      cases hreply'.symm.trans h
    · refine ⟨iff_of_false ?_ (not_not_intro hyes), iff_of_true herror hyes⟩
      rintro ⟨reply', hreply'⟩
      cases hreply'.symm.trans herror
  records reply reply' hreply hreply' := by
    obtain ⟨records, h⟩ := teamReply_of_scoreTeams hitems hreply
    obtain ⟨records', h'⟩ := teamReply_of_scoreTeams hothers hreply'
    exact ⟨records, records', h, h', h.perm hperm h'⟩

/-- Three scores of a team, of which the first cannot grow any more: the call is answered if a loss
comes before the gain, and fails if it comes after. -/
theorem teamScore_order_matters :
    let most := Text.bytes "\x7b\"team\":\"T\",\"score\":9223372036854775807\x7d"
    let gain := Text.bytes "\x7b\"team\":\"T\",\"score\":1\x7d"
    let loss := Text.bytes "\x7b\"team\":\"T\",\"score\":-1\x7d"
    let headers : Headers := OrderedMap.empty.insert Headers.contentType "multipart/json"
    let payload := encodeCollection [most, loss, gain]
    let other := encodeCollection [most, gain, loss]
    CollectionBytes payload [most, loss, gain] ∧ CollectionBytes other [most, gain, loss] ∧
      [most, loss, gain].Perm [most, gain, loss] ∧
      (∃ reply, scoreTeams 0 headers payload = .ok reply) ∧
      ¬∃ reply, scoreTeams 0 headers other = .ok reply := by
  intro most gain loss headers payload other
  have hreply := eq_ok_getD (x := scoreTeams 0 headers payload) (a := default) (by decide +kernel)
  refine ⟨Wire.collectionBytes_encodeCollection (by decide +kernel),
    Wire.collectionBytes_encodeCollection (by decide +kernel), (List.Perm.swap ..).cons most,
    ⟨_, hreply⟩, ?_⟩
  rintro ⟨reply, hreply⟩
  have hnone : (scoreTeams 0 headers other).toOption.isNone = true := by decide +kernel
  rw [hreply] at hnone
  cases hnone

/-- The same scores in three orders, of which one takes the total out of 64 bits, with a score of
another team before or after them. -/
theorem teamScore_orderless_three :
    let most := Text.bytes "\x7b\"team\":\"T\",\"score\":9223372036854775807\x7d"
    let gain := Text.bytes "\x7b\"team\":\"T\",\"userTotalScore\":\"1\"\x7d"
    let loss := Text.bytes "\x7b\"team\":\"T\",\"score\":-1\x7d"
    let seven := Text.bytes "\x7b\"team\":7,\"score\":7\x7d"
    let headers : Headers := OrderedMap.empty.insert Headers.contentType "multipart/json"
    let items := [seven, most, loss, gain]
    let others := [loss, most, gain, seven]
    let broken := [most, gain, loss, seven]
    CollectionBytes (encodeCollection items) items ∧
      CollectionBytes (encodeCollection others) others ∧ items.Perm others ∧ items.Perm broken ∧
      (∃ reply reply' records records',
        scoreTeams 0 headers (encodeCollection items) = .ok reply ∧
        scoreTeams 0 headers (encodeCollection others) = .ok reply' ∧
        TeamReply headers items records reply ∧ TeamReply headers others records' reply' ∧
        records.Perm records') ∧
      scoreTeams 0 headers (encodeCollection broken) = .error totalOverflow := by
  intro most gain loss seven headers items others broken
  have hitems : CollectionBytes (encodeCollection items) items :=
    Wire.collectionBytes_encodeCollection (by decide +kernel)
  have hothers : CollectionBytes (encodeCollection others) others :=
    Wire.collectionBytes_encodeCollection (by decide +kernel)
  have hbroken : CollectionBytes (encodeCollection broken) broken :=
    Wire.collectionBytes_encodeCollection (by decide +kernel)
  have hperm : items.Perm others := by decide +kernel
  have hperm' : items.Perm broken := by decide +kernel
  have hreply := eq_ok_getD (x := scoreTeams 0 headers (encodeCollection items)) (a := default)
    (by decide +kernel)
  have hordered := teamScore_orderless 0 headers hitems hothers hperm
  obtain ⟨reply', hreply'⟩ := (hordered.overflows _ hreply).1.mpr (by decide +kernel)
  obtain ⟨records, records', h⟩ := hordered.records _ reply' hreply hreply'
  have hordered' := teamScore_orderless 0 headers hitems hbroken hperm'
  exact ⟨hitems, hothers, hperm, hperm', ⟨_, reply', records, records', hreply, hreply', h⟩,
    (hordered'.overflows _ hreply).2.mpr (by decide +kernel)⟩

end Replies

end WindowGateway
