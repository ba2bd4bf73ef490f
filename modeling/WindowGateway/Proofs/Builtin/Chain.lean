import WindowGateway.Proofs.Builtin.Score
import WindowGateway.Proofs.Json.RoundTrip

/-! The scores of the players, sent on as a batch for the teams. The record of a player is an item
with the player's team and total, so the teams get from the records of all players just what they
get from the items themselves. -/

namespace WindowGateway

open Wire (CollectionBytes decodeCollection_eq_ok_iff encodeCollection)
open Json (Document Value)

namespace Builtin

/-! ### Batches of players -/

/-- A team that is told by a text or by an integer. -/
inductive PlainTeam : Document → Prop
  | text {d : Document} {s : String} (value : d.value = .string s) : PlainTeam d
  | integer {d : Document} {n : Int}
      {h : -0x8000000000000000 ≤ n ∧ n < 0x10000000000000000}
      (value : d.value = .number (.integer n h)) : PlainTeam d

/-- The item tells a player and a team. -/
def Tells (item : List UInt8) (user team : String) : Prop :=
  ∃ d, ItemHolds item d ∧ HasKey d "fullName" user ∧ HasKey d "team" team

/-- Every item tells a team, by a text or by an integer, and all items of a player tell the same. -/
structure Rostered (items : List (List UInt8)) : Prop where
  plain : ∀ item ∈ items, ∀ d, ItemHolds item d → ∃ v, d.field? "team" = some v ∧ PlainTeam v
  oneTeam : ∀ item ∈ items, ∀ other ∈ items, ∀ user team team', Tells item user team →
    Tells other user team' → team = team'

/-- What an amount contributes to a team. -/
def teamEntry (team : String) (n : Int) : Contribution := ⟨team, n, [("team", .ofString team)]⟩

/-- A player's contribution that tells the team that `teamOf` gives. -/
def PlaysFor (teamOf : String → String) (c : Contribution) : Prop :=
  ∃ v, c.fields = [("user", .ofString c.key), ("team", v)] ∧ KeyText v (teamOf c.key) ∧ PlainTeam v

section Items

variable {items : List (List UInt8)} {item : List UInt8} {c e : Contribution}

/-- An item that both tallies take tells them the same amount. -/
theorem teamEntry_of_items (hu : UserItem item c) (ht : TeamItem item e) :
    e = teamEntry e.key c.amount := by
  obtain ⟨hholds, _, hscore, hdenotes, hrange⟩ := hu
  obtain ⟨hholds', _, hscore', hdenotes', hrange'⟩ := ht
  obtain rfl := hholds.unique hholds'
  rw [hscore, Option.some_or] at hscore'
  obtain rfl := Option.some.inj hscore'
  rw [hdenotes.unique hrange hdenotes' hrange']
  rfl

/-- The items assign a team to every player. -/
theorem Rostered.exists_teamOf (hr : Rostered items) :
    ∃ teamOf : String → String, ∀ item ∈ items, ∀ c e, UserItem item c → TeamItem item e →
      teamOf c.key = e.key := by
  have hone : ∀ user, ∃ team, ∀ item ∈ items, ∀ told, Tells item user told → team = told := by
    intro user
    by_cases h : ∃ item ∈ items, ∃ team, Tells item user team
    · obtain ⟨item, hmem, team, htells⟩ := h
      exact ⟨team, fun other hmem' told htold =>
        hr.oneTeam item hmem other hmem' user team told htells htold⟩
    · exact ⟨"", fun item hmem told htold => absurd ⟨item, hmem, told, htold⟩ h⟩
  choose teamOf hteamOf using hone
  refine ⟨teamOf, fun item hmem c e hu ht => ?_⟩
  obtain ⟨hholds, huser, _, _, _⟩ := hu
  obtain ⟨hholds', hteam, _, _, _⟩ := ht
  obtain rfl := hholds.unique hholds'
  exact hteamOf _ item hmem _ ⟨_, hholds, huser, hteam⟩

theorem playsFor_of_items (hr : Rostered items) (hmem : item ∈ items) (hu : UserItem item c)
    (ht : TeamItem item e) {teamOf : String → String} (hteam : teamOf c.key = e.key) :
    PlaysFor teamOf c := by
  obtain ⟨hholds, _, _, _, _⟩ := hu
  obtain ⟨hholds', ⟨v, hv, hkey⟩, _, _, _⟩ := ht
  obtain rfl := hholds.unique hholds'
  obtain ⟨w, hw, hplain⟩ := hr.plain item hmem _ hholds
  obtain rfl : v = w := Option.some.inj (hv.symm.trans hw)
  refine ⟨v, ?_, ?_, hplain⟩
  · rw [hv]
    rfl
  · rw [hteam]
    exact hkey

/-- Two readings of the same items, side by side. -/
theorem forall₂_both {α β γ : Type} {R : α → β → Prop} {S : α → γ → Prop} {xs : List α}
    {ys : List β} {zs : List γ} (hr : List.Forall₂ R xs ys) (hs : List.Forall₂ S xs zs) :
    List.Forall₂ (fun y z => ∃ x ∈ xs, R x y ∧ S x z) ys zs := by
  induction hr generalizing zs with
  | nil =>
    cases hs
    exact .nil
  | @cons x y xs ys hxy _ ih =>
    cases hs with
    | cons hxz hrest =>
      refine .cons ⟨x, List.mem_cons_self, hxy, hxz⟩ ((ih hrest).imp fun y z h => ?_)
      obtain ⟨x', hmem, h⟩ := h
      exact ⟨x', List.mem_cons_of_mem _ hmem, h⟩

/-- The batch gives the teams what the players contribute, each to the player's team. -/
theorem Rostered.entries (hr : Rostered items) {us ts : List Contribution}
    (hus : List.Forall₂ UserItem items us) (hts : List.Forall₂ TeamItem items ts) :
    ∃ teamOf : String → String, (∀ c ∈ us, PlaysFor teamOf c) ∧
      us.map (fun c => teamEntry (teamOf c.key) c.amount) = ts := by
  obtain ⟨teamOf, hteamOf⟩ := hr.exists_teamOf
  have hboth : List.Forall₂ (fun c e => PlaysFor teamOf c ∧
      teamEntry (teamOf c.key) c.amount = e) us ts := by
    refine (forall₂_both hus hts).imp fun c e h => ?_
    obtain ⟨item, hmem, hu, ht⟩ := h
    have hteam := hteamOf item hmem c e hu ht
    refine ⟨playsFor_of_items hr hmem hu ht hteam, ?_⟩
    rw [hteam]
    exact (teamEntry_of_items hu ht).symm
  obtain ⟨hplays, hentries⟩ := (List.forall₂_and_left _ _).mp hboth
  rw [← List.forall₂_map_left_iff, List.forall₂_eq_eq_eq] at hentries
  exact ⟨teamOf, hplays, hentries⟩

end Items

/-! ### Rosters that can be checked -/

instance : DecidablePred PlainTeam := fun d =>
  match h : d.value with
  | .string _ => isTrue (.text h)
  | .number (.integer _ _) => isTrue (.integer h)
  | .number (.real _ _) | .null | .bool _ | .array _ | .object _ =>
    isFalse fun hplain => by cases hplain <;> simp_all

/-- The document that an item holds. -/
def document? (item : List UInt8) : Option Document := (decodeItem 0 item).toOption

theorem document?_eq_some_iff {item : List UInt8} {d : Document} :
    document? item = some d ↔ ItemHolds item d := by
  rw [document?, toOption_eq_some_iff, decodeItem_eq_ok_iff]

/-- The player and the team that an item tells. -/
def told? (item : List UInt8) : Option (String × String) := do
  let d ← document? item
  let user ← (keyField d "fullName").toOption
  let team ← (keyField d "team").toOption
  pure (user, team)

theorem told?_eq_some_iff {item : List UInt8} {user team : String} :
    told? item = some (user, team) ↔ Tells item user team := by
  simp only [told?, Option.bind_eq_bind, Option.bind_eq_some_iff, Option.pure_def,
    document?_eq_some_iff, toOption_eq_some_iff, keyField_eq_ok_iff, Option.some.injEq,
    Prod.mk.injEq]
  constructor
  · rintro ⟨d, hholds, user', huser, team', hteam, rfl, rfl⟩
    exact ⟨d, hholds, huser, hteam⟩
  · rintro ⟨d, hholds, huser, hteam⟩
    exact ⟨d, hholds, user, huser, team, hteam, rfl, rfl⟩

instance (items : List (List UInt8)) : Decidable (Rostered items) :=
  decidable_of_iff
    ((∀ item ∈ items, ∀ d ∈ document? item, ∃ v ∈ d.field? "team", PlainTeam v) ∧
      ∀ item ∈ items, ∀ other ∈ items, ∀ p ∈ told? item, ∀ q ∈ told? other, p.1 = q.1 → p.2 = q.2)
    (by
      constructor
      · rintro ⟨hplain, hone⟩
        refine ⟨fun item hmem d hd => hplain item hmem d (document?_eq_some_iff.mpr hd), ?_⟩
        intro item hmem other hmem' user team team' htells htold
        exact hone item hmem other hmem' _ (told?_eq_some_iff.mpr htells) _
          (told?_eq_some_iff.mpr htold) rfl
      · rintro ⟨hplain, hone⟩
        refine ⟨fun item hmem d hd => hplain item hmem d (document?_eq_some_iff.mp hd), ?_⟩
        rintro item hmem other hmem' ⟨user, team⟩ hp ⟨_, team'⟩ hq rfl
        exact hone item hmem other hmem' user team team' (told?_eq_some_iff.mp hp)
          (told?_eq_some_iff.mp hq))

/-! ### Records as items -/

section Records

variable {headers : Headers} {teamOf : String → String} {us : List Contribution} {user : String}
  {record : Document}

/-- The members of a player's record. -/
def playerMembers (headers : Headers) (user : String) (team : Document) (n : Int)
    (h : -0x8000000000000000 ≤ n ∧ n < 0x10000000000000000) : List (String × Value) :=
  boundsOf headers ++ [("user", .string user), ("team", team.value)] ++
    [("userTotalScore", .number (.integer n h))]

theorem IsRecord.player (hr : IsRecord headers "userTotalScore" us user record)
    (hplays : ∀ c ∈ us, PlaysFor teamOf c) :
    ∃ team h, KeyText team (teamOf user) ∧ PlainTeam team ∧
      record.value = .object (playerMembers headers user team (totalOf user us) h) := by
  obtain ⟨first, hfirst, h, hvalue⟩ := hr
  obtain ⟨hmem, rfl⟩ := mem_of_firstOf? hfirst
  obtain ⟨team, hfields, hkey, hplain⟩ := hplays first hmem
  rw [frontOf, hfields] at hvalue
  exact ⟨team, h, hkey, hplain, hvalue⟩

theorem keys_playerMembers_sublist (user : String) (team : Document) {n : Int}
    (h : -0x8000000000000000 ≤ n ∧ n < 0x10000000000000000) :
    ((playerMembers headers user team n h).map Prod.fst).Sublist
      ["from", "to", "user", "team", "userTotalScore"] := by
  rw [playerMembers, List.map_append, List.map_append, List.append_assoc]
  exact (keys_boundsOf_sublist headers).append_right ["user", "team", "userTotalScore"]

theorem mem_boundsOf {m : String × Value} (h : m ∈ boundsOf headers) : ∃ s, m.2 = .string s := by
  rw [boundsOf, List.mem_append, Option.mem_toList, Option.mem_toList] at h
  rcases h with h | h
  all_goals
    obtain ⟨s, _, rfl⟩ := Option.map_eq_some_iff.mp h
    exact ⟨s, rfl⟩

/-- A record of a player nests nothing and holds no floating-point number. -/
theorem playerMembers_plain (headers : Headers) (user : String) {team : Document}
    (hplain : PlainTeam team) {n : Int} (h : -0x8000000000000000 ≤ n ∧ n < 0x10000000000000000) :
    ∀ m ∈ playerMembers headers user team n h, m.2.floatFree = true ∧ m.2.depth ≤ 0 := by
  intro m hm
  simp only [playerMembers, List.mem_append, List.mem_cons, List.not_mem_nil, or_false] at hm
  rcases hm with (hbound | rfl | rfl) | rfl
  · obtain ⟨s, hs⟩ := mem_boundsOf hbound
    rw [hs]
    exact ⟨rfl, Nat.le_refl 0⟩
  · exact ⟨rfl, Nat.le_refl 0⟩
  · cases hplain with
    | text value =>
      rw [value]
      exact ⟨rfl, Nat.le_refl 0⟩
    | integer value =>
      rw [value]
      exact ⟨rfl, Nat.le_refl 0⟩
  · exact ⟨rfl, Nat.le_refl 0⟩

/-- The text of such a record is an item that holds the record. -/
theorem itemHolds_player {team : Document} (hplain : PlainTeam team) {n : Int}
    {h : -0x8000000000000000 ≤ n ∧ n < 0x10000000000000000}
    (hvalue : record.value = .object (playerMembers headers user team n h)) :
    ItemHolds record.bytes record where
  utf8 := ⟨_, Text.Utf8.decode_encode _⟩
  text := by
    have hmembers := playerMembers_plain headers user hplain h
    apply Document.parse_bytes
    · rw [hvalue, Value.floatFree, Value.membersFloatFree_iff]
      exact fun m hm => (hmembers m hm).1
    · have hdepth : Value.membersDepth (playerMembers headers user team n h) ≤ 0 :=
        Value.membersDepth_le_iff.mpr fun m hm => (hmembers m hm).2
      rw [hvalue, Value.depth]
      exact Nat.le_trans (Nat.succ_le_succ hdepth) (by decide)

/-- The record of a player is an item for the player's team, with the player's total. -/
theorem IsRecord.teamItem (hr : IsRecord headers "userTotalScore" us user record)
    (hplays : ∀ c ∈ us, PlaysFor teamOf c) (hbounded : Bounded us) :
    TeamItem record.bytes (teamEntry (teamOf user) (totalOf user us)) := by
  obtain ⟨team, h, hkey, hplain, hvalue⟩ := hr.player hplays
  have hteam : record.field? "team" = some team :=
    Document.field?_of_mem hvalue (by simp [playerMembers])
  have hscore : record.field? "score" = none := by
    refine Document.field?_of_not_mem hvalue fun hmem => ?_
    have hkeys := (keys_playerMembers_sublist user team h).subset hmem
    exact absurd hkeys (by decide)
  have htotal : record.field? "userTotalScore" =
      some (.ofNumber (.integer (totalOf user us) h)) :=
    Document.field?_of_mem hvalue (by simp [playerMembers, Document.ofNumber])
  have hdenotes : Denotes (.ofNumber (.integer (totalOf user us) h)) (totalOf user us) :=
    .number rfl
  refine .mk (itemHolds_player hplain hvalue) ⟨team, hteam, hkey⟩ ?_ hdenotes
    (hbounded.total user)
  rw [hscore, Option.none_or]
  exact htotal

/-- The records of all players are a batch for the teams, one entry for each player. -/
theorem forall₂_teamItem {records : List Document}
    (hrecords : List.Forall₂ (IsRecord headers "userTotalScore" us) (keysOf us) records)
    (hplays : ∀ c ∈ us, PlaysFor teamOf c) (hbounded : Bounded us) :
    List.Forall₂ TeamItem (records.map Document.bytes)
      ((keysOf us).map fun user => teamEntry (teamOf user) (totalOf user us)) := by
  rw [List.forall₂_map_left_iff, List.forall₂_map_right_iff]
  exact (hrecords.imp fun _ _ hr => hr.teamItem hplays hbounded).flip

/-! ### Records of teams -/

/-- The record of a team in a reply to `cs`. -/
def TeamRecord (headers : Headers) (cs : List Contribution) (team : String) (record : Document) :
    Prop :=
  Carries record (boundsOf headers ++ [("team", .string team)]) "totalScore" (totalOf team cs)

theorem rightUnique_teamRecord (headers : Headers) (cs : List Contribution) :
    Relator.RightUnique (TeamRecord headers cs) :=
  fun _ _ _ h ho => h.unique ho

theorem IsRecord.team {cs : List Contribution} {team : String}
    (hr : IsRecord headers "totalScore" cs team record)
    (hcs : ∀ c ∈ cs, ∃ team n, teamEntry team n = c) : TeamRecord headers cs team record := by
  obtain ⟨first, hfirst, hcarries⟩ := hr
  obtain ⟨hmem, hkey⟩ := mem_of_firstOf? hfirst
  obtain ⟨_, _, rfl⟩ := hcs first hmem
  obtain rfl : _ = team := hkey
  exact hcarries

/-- Two replies tell the same of the teams if these have the same totals. -/
theorem eq_teamRecords {cs ds : List Contribution} {teams : List String}
    {records others : List Document} (hcs : ∀ c ∈ cs, ∃ team n, teamEntry team n = c)
    (hds : ∀ c ∈ ds, ∃ team n, teamEntry team n = c)
    (htotal : ∀ team, totalOf team cs = totalOf team ds)
    (hrecords : List.Forall₂ (IsRecord headers "totalScore" cs) teams records)
    (hothers : List.Forall₂ (IsRecord headers "totalScore" ds) teams others) :
    records = others := by
  have hsame : TeamRecord headers cs = TeamRecord headers ds := by
    funext team record
    rw [TeamRecord, TeamRecord, htotal]
  refine (rightUnique_teamRecord headers ds).forall₂ (hrecords.imp fun team record hr => ?_)
    (hothers.imp fun team record hr => hr.team hds)
  rw [← hsame]
  exact hr.team hcs

end Records

end Builtin

open Builtin

/-! ### The chain -/

theorem chained_scores (threshold : Nat) {headers : Headers} {batch : List UInt8}
    {items : List (List UInt8)} (hitems : CollectionBytes batch items) (hr : Rostered items)
    {byUser byTeam chained : Envelope}
    (hu : ((Udf.userScore.handler threshold).answer ⟨headers, batch⟩).result = .ok byUser)
    (ht : ((Udf.teamScore.handler threshold).answer ⟨headers, batch⟩).result = .ok byTeam)
    (hc : ((Udf.teamScore.handler threshold).answer ⟨headers, byUser.payload⟩).result =
      .ok chained) :
    chained = byTeam := by
  obtain ⟨ha, sent, _, _, hsent, _, _⟩ := stages_of_reply hc
  -- The two calls on the batch itself.
  have husers : AnswersTally (Udf.userScore.handler threshold) "userTotalScore" UserItem
      ⟨headers, batch⟩ items := userScore_answersTally threshold ha hitems
  have hteams : AnswersTally (Udf.teamScore.handler threshold) "totalScore" TeamItem
      ⟨headers, batch⟩ items := teamScore_answersTally threshold ha hitems
  obtain ⟨us, hus, hbounded⟩ := husers.succeeds.mp ⟨byUser, hu⟩
  obtain ⟨ts, hts, _⟩ := hteams.succeeds.mp ⟨byTeam, ht⟩
  obtain ⟨players, hplayers, rfl⟩ := husers.emits byUser us hu hus
  obtain ⟨records, hrecords, rfl⟩ := hteams.emits byTeam ts ht hts
  obtain ⟨teamOf, hplays, rfl⟩ := hr.entries hus hts
  -- The call on the records of the players.
  obtain rfl : sent = players.map Document.bytes :=
    Wire.eq_of_decodeCollection_encodeCollection (decodeCollection_eq_ok_iff.mpr hsent)
  have hagain := teamScore_answersTally threshold ha hsent
  obtain ⟨others, hothers, rfl⟩ :=
    hagain.emits chained _ hc (forall₂_teamItem hplayers hplays hbounded)
  have hkeys := keysOf_subtotals teamEntry (fun _ _ => rfl) teamOf us
  have htotal := totalOf_subtotals teamEntry (fun _ _ => rfl) teamOf us fun _ _ => rfl
  rw [hkeys] at hothers
  obtain rfl : others = records := by
    refine eq_teamRecords (fun c hmem => ?_) (fun c hmem => ?_) htotal hothers hrecords
    all_goals
      obtain ⟨_, _, rfl⟩ := List.mem_map.mp hmem
      exact ⟨_, _, rfl⟩
  rfl

/-- Two players of two teams, one of whom scores twice. -/
theorem chained_scores_two :
    let items := [Text.bytes "\x7b\"fullName\":\"ann\",\"team\":7,\"score\":5\x7d",
      Text.bytes "\x7b\"fullName\":\"bob\",\"team\":\"red\",\"score\":1\x7d",
      Text.bytes "\x7b\"fullName\":\"ann\",\"team\":\"7\",\"score\":\"2\"\x7d"]
    let headers : Headers := OrderedMap.empty.insert Headers.contentType "multipart/json"
    let batch := encodeCollection items
    CollectionBytes batch items ∧ Rostered items ∧ ∃ byUser byTeam chained : Envelope,
      ((Udf.userScore.handler 0).answer ⟨headers, batch⟩).result = .ok byUser ∧
      ((Udf.teamScore.handler 0).answer ⟨headers, batch⟩).result = .ok byTeam ∧
      ((Udf.teamScore.handler 0).answer ⟨headers, byUser.payload⟩).result = .ok chained ∧
      chained = byTeam := by
  intro items headers batch
  have hitems : CollectionBytes batch items :=
    Wire.collectionBytes_encodeCollection (by decide +kernel)
  have hr : Rostered items := by decide +kernel
  let byUser := ((Udf.userScore.handler 0).answer ⟨headers, batch⟩).result.toOption.getD default
  let byTeam := ((Udf.teamScore.handler 0).answer ⟨headers, batch⟩).result.toOption.getD default
  let chained :=
    ((Udf.teamScore.handler 0).answer ⟨headers, byUser.payload⟩).result.toOption.getD default
  have hu : ((Udf.userScore.handler 0).answer ⟨headers, batch⟩).result = .ok byUser :=
    eq_ok_getD (by decide +kernel)
  have ht : ((Udf.teamScore.handler 0).answer ⟨headers, batch⟩).result = .ok byTeam :=
    eq_ok_getD (by decide +kernel)
  have hc : ((Udf.teamScore.handler 0).answer ⟨headers, byUser.payload⟩).result = .ok chained :=
    eq_ok_getD (by decide +kernel)
  exact ⟨hitems, hr, byUser, byTeam, chained, hu, ht, hc, chained_scores 0 hitems hr hu ht hc⟩

end WindowGateway
