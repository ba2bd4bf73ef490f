import WindowGateway.Proofs.Builtin.Tally
import WindowGateway.Udf

/-! What the scores of a game add up to. A call for the scores of the teams, or of the players,
succeeds just if every item gives a key and a score and no sum of scores leaves 64 bits; its reply
has one record for each key, with the exact sum. -/

namespace WindowGateway

open Wire (CollectionBytes decodeCollection_eq_ok_iff encodeCollection)
open Json (Document Value)

namespace Builtin

/-! ### Items -/

/-- An item for the teams: a document with a key for `team` and a score, which `score` gives if it
is there at all and `userTotalScore` otherwise. -/
inductive TeamItem : List UInt8 → Contribution → Prop
  | mk {bytes : List UInt8} {d v : Document} {team : String} {n : Int} (holds : ItemHolds bytes d)
      (key : HasKey d "team" team)
      (score : (d.field? "score").or (d.field? "userTotalScore") = some v) (denotes : Denotes v n)
      (range : IsInt64 n) :
    TeamItem bytes ⟨team, n, [("team", .ofString team)]⟩

/-- An item for the players: a document with a key for `fullName` and a score. It may tell a team,
and tells none by null. -/
inductive UserItem : List UInt8 → Contribution → Prop
  | mk {bytes : List UInt8} {d v : Document} {user : String} {n : Int} (holds : ItemHolds bytes d)
      (key : HasKey d "fullName" user) (score : d.field? "score" = some v) (denotes : Denotes v n)
      (range : IsInt64 n) :
    UserItem bytes ⟨user, n, [("user", .ofString user), ("team", (d.field? "team").getD .null)]⟩

/-- A contribution that takes its key from one field and its amount from another. -/
theorem keyed_eq_ok_iff {d : Document} {key field : String}
    {fields : String → List (String × Document)} {c : Contribution} :
    (do
      let k ← keyField d key
      let n ← integerField d field
      pure ⟨k, n, fields k⟩ : Except FieldFault Contribution) = .ok c ↔
      ∃ k v n, HasKey d key k ∧ d.field? field = some v ∧ Denotes v n ∧ IsInt64 n ∧
        c = ⟨k, n, fields k⟩ := by
  constructor
  · intro h
    cases hk : keyField d key with
    | error fault =>
      rw [hk] at h
      cases h
    | ok k =>
      cases hn : integerField d field with
      | error fault =>
        rw [hk, hn] at h
        cases h
      | ok n =>
        rw [hk, hn] at h
        obtain ⟨v, hv, hd, hrange⟩ := integerField_eq_ok_iff.mp hn
        exact ⟨k, v, n, keyField_eq_ok_iff.mp hk, hv, hd, hrange, (Except.ok.inj h).symm⟩
  · rintro ⟨k, v, n, hk, hv, hd, hrange, rfl⟩
    rw [keyField_eq_ok_iff.mpr hk, integerField_eq_ok_iff.mpr ⟨v, hv, hd, hrange⟩]
    rfl

/-- A field that is there stands in for any other. -/
theorem field?_first (d : Document) (first second : String) :
    d.field? (if (d.field? first).isSome then first else second) =
      (d.field? first).or (d.field? second) := by
  cases h : d.field? first with
  | none => rw [Option.isSome_none, if_neg (by decide), Option.none_or]
  | some v => rw [Option.isSome_some, if_pos rfl, h, Option.some_or]

theorem teamScore_reads_iff {bytes : List UInt8} {c : Contribution} :
    teamScore.Reads bytes c ↔ TeamItem bytes c := by
  constructor
  · rintro ⟨d, hholds, hd⟩
    obtain ⟨team, v, n, hkey, hv, hdenotes, hrange, rfl⟩ := keyed_eq_ok_iff.mp hd
    rw [field?_first] at hv
    exact .mk hholds hkey hv hdenotes hrange
  · rintro ⟨hholds, hkey, hv, hdenotes, hrange⟩
    rw [← field?_first] at hv
    exact ⟨_, hholds, keyed_eq_ok_iff.mpr ⟨_, _, _, hkey, hv, hdenotes, hrange, rfl⟩⟩

theorem userScore_reads_iff {bytes : List UInt8} {c : Contribution} :
    userScore.Reads bytes c ↔ UserItem bytes c := by
  constructor
  · rintro ⟨d, hholds, hd⟩
    obtain ⟨user, v, n, hkey, hv, hdenotes, hrange, rfl⟩ := keyed_eq_ok_iff.mp hd
    exact .mk hholds hkey hv hdenotes hrange
  · rintro ⟨hholds, hkey, hv, hdenotes, hrange⟩
    exact ⟨_, hholds, keyed_eq_ok_iff.mpr ⟨_, _, _, hkey, hv, hdenotes, hrange, rfl⟩⟩

theorem teamScore_proper : teamScore.Proper := by
  intro d c hc
  obtain ⟨team, v, n, _, _, _, _, rfl⟩ := keyed_eq_ok_iff.mp hc
  show ("from" :: "to" :: (["team"] ++ ["totalScore"])).Nodup
  decide

theorem userScore_proper : userScore.Proper := by
  intro d c hc
  obtain ⟨user, v, n, _, _, _, _, rfl⟩ := keyed_eq_ok_iff.mp hc
  show ("from" :: "to" :: (["user", "team"] ++ ["userTotalScore"])).Nodup
  decide

end Builtin

open Builtin

/-! ### Replies -/

/-- A handler answers a batch by the tally of what its items contribute. -/
structure AnswersTally (h : Handler) (total : String)
    (Item : List UInt8 → Contribution → Prop) (request : Envelope) (items : List (List UInt8)) :
    Prop where
  succeeds : (∃ reply, (h.answer request).result = .ok reply) ↔
    ∃ cs, List.Forall₂ Item items cs ∧ Bounded cs
  emits : ∀ reply cs, (h.answer request).result = .ok reply → List.Forall₂ Item items cs →
    ∃ records, List.Forall₂ (IsRecord request.headers total cs) (keysOf cs) records ∧
      reply = ⟨OrderedMap.empty.insert Headers.contentType "multipart/json",
        encodeCollection (records.map Document.bytes)⟩

section Replies

variable {tally : Tally} {request : Envelope} {items : List (List UInt8)}

/-- The reply to a batch whose items can be tallied. -/
theorem answer_of_reads (hproper : tally.Proper) (ha : request.headers.Announce .batch)
    (hitems : CollectionBytes request.payload items) {cs : List Contribution}
    (hreads : List.Forall₂ tally.Reads items cs) (hbounded : Bounded cs) :
    ∃ records, List.Forall₂ (IsRecord request.headers tally.total cs) (keysOf cs) records ∧
      ((Handler.aggregator { accumulate := tally.accumulate }).answer request).result =
        .ok ⟨OrderedMap.empty.insert Headers.contentType "multipart/json",
          encodeCollection (records.map Document.bytes)⟩ := by
  obtain ⟨folded, hfold, ht⟩ := fold_tally request.headers hproper hreads hbounded
  let a : Aggregator := { accumulate := tally.accumulate }
  have hd := decodeCollection_eq_ok_iff.mpr hitems
  have he : (a.aggregate request.headers request.payload).result = .ok folded :=
    aggregate_eq_ok_iff.mpr ⟨items, folded, hd, hfold, rfl⟩
  exact ⟨folded.values, ht.values, answer_of_aggregate_ok ha he rfl⟩

/-- Only such a batch has a reply. -/
theorem reads_of_answer (hproper : tally.Proper) (hitems : CollectionBytes request.payload items)
    {reply : Envelope}
    (hreply : ((Handler.aggregator { accumulate := tally.accumulate }).answer request).result =
      .ok reply) :
    ∃ cs, List.Forall₂ tally.Reads items cs ∧ Bounded cs := by
  obtain ⟨_, decoded, folded, _, hdecoded, hfold, _⟩ := stages_of_reply hreply
  obtain rfl : items = decoded := hitems.unique hdecoded
  obtain ⟨cs, hcs, ht⟩ := tally_of_fold hproper hfold
  exact ⟨cs, hcs, ht.bounded⟩

theorem answersTally_of_proper (hproper : tally.Proper) (ha : request.headers.Announce .batch)
    (hitems : CollectionBytes request.payload items) :
    AnswersTally (.aggregator { accumulate := tally.accumulate }) tally.total tally.Reads request
      items where
  succeeds := by
    constructor
    · rintro ⟨reply, hreply⟩
      exact reads_of_answer hproper hitems hreply
    · rintro ⟨cs, hcs, hbounded⟩
      obtain ⟨records, _, hreply⟩ := answer_of_reads hproper ha hitems hcs hbounded
      exact ⟨_, hreply⟩
  emits reply cs hreply hcs := by
    obtain ⟨ds, hds, hbounded⟩ := reads_of_answer hproper hitems hreply
    obtain rfl : cs = ds := tally.rightUnique_reads.forall₂ hcs hds
    obtain ⟨records, hrecords, hanswer⟩ := answer_of_reads hproper ha hitems hcs hbounded
    rw [hreply] at hanswer
    exact ⟨records, hrecords, Except.ok.inj hanswer⟩

theorem teamScore_answersTally (threshold : Nat) (ha : request.headers.Announce .batch)
    (hitems : CollectionBytes request.payload items) :
    AnswersTally (Udf.teamScore.handler threshold) "totalScore" TeamItem request items := by
  have hreads : teamScore.Reads = TeamItem := funext₂ fun _ _ => propext teamScore_reads_iff
  rw [← hreads]
  exact answersTally_of_proper teamScore_proper ha hitems

theorem userScore_answersTally (threshold : Nat) (ha : request.headers.Announce .batch)
    (hitems : CollectionBytes request.payload items) :
    AnswersTally (Udf.userScore.handler threshold) "userTotalScore" UserItem request items := by
  have hreads : userScore.Reads = UserItem := funext₂ fun _ _ => propext userScore_reads_iff
  rw [← hreads]
  exact answersTally_of_proper userScore_proper ha hitems

/-- The scores of the teams and those of the players are tallies of what the items say, so that a
call for them fails only where an item says nothing or a sum leaves 64 bits. -/
theorem scores_answersTally (threshold : Nat) (ha : request.headers.Announce .batch)
    (hitems : CollectionBytes request.payload items) :
    AnswersTally (Udf.teamScore.handler threshold) "totalScore" TeamItem request items ∧
      AnswersTally (Udf.userScore.handler threshold) "userTotalScore" UserItem request items :=
  ⟨teamScore_answersTally threshold ha hitems, userScore_answersTally threshold ha hitems⟩

/-- Two scores of one player, for whom the items tell the team in two ways. -/
theorem scores_answersTally_player :
    let items := [Text.bytes "\x7b\"fullName\":\"ann\",\"team\":7,\"score\":5\x7d",
      Text.bytes "\x7b\"fullName\":\"ann\",\"team\":\"7\",\"score\":\" -2\"\x7d"]
    let request : Envelope :=
      ⟨(OrderedMap.empty.insert Headers.contentType "multipart/json").insert Headers.windowStart
        "noon", encodeCollection items⟩
    request.headers.Announce .batch ∧ CollectionBytes request.payload items ∧
      AnswersTally (Udf.teamScore.handler 20) "totalScore" TeamItem request items ∧
      AnswersTally (Udf.userScore.handler 20) "userTotalScore" UserItem request items := by
  intro items request
  have ha : request.headers.Announce .batch := ⟨"multipart/json", rfl, by decide⟩
  have hitems : CollectionBytes request.payload items :=
    Wire.collectionBytes_encodeCollection (by decide +kernel)
  exact ⟨ha, hitems, scores_answersTally 20 ha hitems⟩

end Replies

end WindowGateway
