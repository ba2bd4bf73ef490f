import WindowGateway.Proofs.Builtin.Fraud
import WindowGateway.Proofs.Builtin.Score

/-! What one item does to any table. The records may be whatever documents, not only those that a
tally writes. An item either leaves the table as it is and fails with a text, or it adds to the
total of the one record of its key, which it puts last if there is none; no record makes a tally
panic. -/

namespace WindowGateway.Builtin

open Json (Document Value)

/-! ### One record -/

/-- One record is another but for its total, which is where it was and has the amount added. -/
inductive Adds (total : String) (amount : Int) (old new : Document) : Prop
  | mk {front back : List (String × Value)} {v : Document} {n : Int}
      {h : -0x8000000000000000 ≤ n + amount ∧ n + amount < 0x10000000000000000}
      (before : old.value = .object (front ++ (total, v.value) :: back)) (denotes : Denotes v n)
      (range : IsInt64 n) (sum : IsInt64 (n + amount))
      (after : new.value =
        .object (front ++ (total, .number (.integer (n + amount) h)) :: back))

section Record

variable {record new : Document} {total : String} {amount : Int}

/-- A total that can be read can be set, in its place. -/
theorem setField?_of_integerField {n : Int} (h : integerField record total = .ok n) (v : Document) :
    ∃ front back w new, record.value = .object (front ++ (total, w.value) :: back) ∧
      Denotes w n ∧ IsInt64 n ∧ record.setField? total v = some new ∧
      new.value = .object (front ++ (total, v.value) :: back) := by
  obtain ⟨w, hw, hdenotes, hrange⟩ := integerField_eq_ok_iff.mp h
  obtain ⟨front, back, hold⟩ := Document.object_of_field? hw
  obtain ⟨new, hset, hnew⟩ := Document.setField?_of_split hold v
  exact ⟨front, back, w, new, hold, hdenotes, hrange, hset, hnew⟩

/-- An addition that does not succeed fails with a text, whatever the record is. -/
theorem addTo_ends (record : Document) (total : String) (amount : Int) :
    (∃ new, addTo record total amount = .ok new ∧ Adds total amount record new) ∨
    ∃ text, addTo record total amount = .error (.failed text) := by
  unfold addTo
  cases hn : integerField record total with
  | error fault => exact .inr ⟨fault.message, rfl⟩
  | ok n =>
    by_cases hsum : IsInt64 (n + amount)
    · obtain ⟨h, hd⟩ := int64?_of_isInt64 hsum
      obtain ⟨front, back, w, new, hold, hdenotes, hrange, hset, hnew⟩ :=
        setField?_of_integerField hn (.ofNumber (.integer (n + amount) h))
      left
      refine ⟨new, ?_, .mk hold hdenotes hrange hsum hnew⟩
      simp only [hd, hset]
    · right
      exact ⟨(FieldFault.overflow total).message, by simp only [int64?_of_not_isInt64 hsum]⟩

theorem addTo_of_adds (h : Adds total amount record new) :
    addTo record total amount = .ok new := by
  obtain ⟨hold, hdenotes, hrange, hsum, hnew⟩ := h
  have hfield := Document.field?_of_mem hold (List.mem_append_right _ List.mem_cons_self)
  have hcurrent := integerField_eq_ok_iff.mpr ⟨_, hfield, hdenotes, hrange⟩
  obtain ⟨_, hd⟩ := int64?_of_isInt64 hsum
  obtain ⟨new', hset, hnew'⟩ := Document.setField?_of_split hold (.ofNumber (.integer _ _))
  obtain rfl : new' = new := Document.ext (hnew'.trans hnew.symm)
  unfold addTo
  simp only [hcurrent, hd, hset]

end Record

/-! ### One item -/

/-- A table after a contribution. The record of the key has the amount added to its total and stays
where it is, or it is new and comes last; the other entries are as they were. -/
inductive Credited (headers : Headers) (total : String) (c : Contribution)
    (table after : RecordTable) : Prop
  | added {front back : List (String × Document)} {old new : Document}
      (before : table.entries = front ++ (c.key, old) :: back) (adds : Adds total c.amount old new)
      (after : after.entries = front ++ (c.key, new) :: back)
  | started {new : Document} (absent : c.key ∉ table.keys)
      (carries : Carries new (frontOf headers c) total c.amount)
      (after : after.entries = table.entries ++ [(c.key, new)])

/-- What an accumulation may do with an item: it never panics, it leaves the table as it is if it
fails, and it succeeds just where a contribution of the item can be credited. -/
structure Atomic (tally : Tally) (Gives : Contribution → Prop) (headers : Headers) (d : Document)
    (table : RecordTable) : Prop where
  noPanic : ∀ panic, (tally.accumulate.run headers d table).1 ≠ .error (.panicked panic)
  untouched : ∀ fault, (tally.accumulate.run headers d table).1 = .error fault →
    (tally.accumulate.run headers d table).2 = table
  credits : ∀ after, tally.accumulate.run headers d table = (.ok (), after) ↔
    ∃ c, Gives c ∧ Credited headers tally.total c table after

section Item

variable {tally : Tally} {headers : Headers} {d record new : Document} {c : Contribution}
  {table after : RecordTable}

theorem run_accumulate_added (hd : tally.contribution d = .ok c)
    (hget : table.get? c.key = some record) (hadd : addTo record tally.total c.amount = .ok new) :
    tally.accumulate.run headers d table = (.ok (), table.insert c.key new) := by
  simp only [Accumulate.run, Tally.accumulate, hd, ExceptT.run_mk, StateT.run,
    OrderedMap.getOrInsert_of_some hget, hadd]

theorem run_accumulate_refused {fault : HookFault} (hd : tally.contribution d = .ok c)
    (hget : table.get? c.key = some record)
    (hadd : addTo record tally.total c.amount = .error fault) :
    tally.accumulate.run headers d table = (.error fault, table) := by
  simp only [Accumulate.run, Tally.accumulate, hd, ExceptT.run_mk, StateT.run,
    OrderedMap.getOrInsert_of_some hget, hadd]

/-- The total of a new record takes any amount of 64 bits. -/
theorem run_accumulate_started (headers : Headers) (hd : tally.contribution d = .ok c)
    (hproper : c.Proper tally.total) (hamount : IsInt64 c.amount) (hget : table.get? c.key = none) :
    ∃ new, tally.accumulate.run headers d table = (.ok (), table.insert c.key new) ∧
      Carries new (frontOf headers c) tally.total c.amount := by
  have hsum : IsInt64 (0 + c.amount) := by rwa [Int.zero_add]
  have hzero : Carries (newRecord headers (c.fields ++ [(tally.total, zero)]))
      (frontOf headers c) tally.total 0 := carries_newRecord hproper
  obtain ⟨new, hadd, hnew⟩ := hzero.addTo (by decide) hsum
  rw [Int.zero_add] at hnew
  refine ⟨new, ?_, hnew⟩
  simp only [Accumulate.run, Tally.accumulate, hd, ExceptT.run_mk, StateT.run,
    OrderedMap.getOrInsert_of_none hget, hadd, OrderedMap.insert_insert]

/-- What an item contributes is credited, or the item fails and leaves the table as it is. -/
theorem run_accumulate_ends (hproper : tally.Proper)
    (hamount : ∀ c, tally.contribution d = .ok c → IsInt64 c.amount) (headers : Headers)
    (table : RecordTable) :
    (∃ c after, tally.contribution d = .ok c ∧
      tally.accumulate.run headers d table = (.ok (), after) ∧
      Credited headers tally.total c table after) ∨
    ∃ text, tally.accumulate.run headers d table = (.error (.failed text), table) := by
  cases hd : tally.contribution d with
  | error fault => exact .inr ⟨fault.message, run_accumulate_fault hd⟩
  | ok c =>
    cases hget : table.get? c.key with
    | none =>
      obtain ⟨new, hrun, hcarries⟩ :=
        run_accumulate_started headers hd (hproper d c hd) (hamount c hd) hget
      have habsent := OrderedMap.get?_eq_none_iff.mp hget
      exact .inl ⟨c, _, rfl, hrun, .started habsent hcarries (setEntry_of_not_mem habsent)⟩
    | some record =>
      rcases addTo_ends record tally.total c.amount with ⟨new, hadd, hadds⟩ | ⟨text, hadd⟩
      · obtain ⟨front, back, hentries⟩ :=
          List.append_of_mem (OrderedMap.mem_entries_iff.mpr hget)
        have hafter := OrderedMap.insert_entries_of_split hentries new
        exact .inl ⟨c, _, rfl, run_accumulate_added hd hget hadd, .added hentries hadds hafter⟩
      · exact .inr ⟨text, run_accumulate_refused hd hget hadd⟩

theorem run_accumulate_of_credited (hd : tally.contribution d = .ok c)
    (hproper : c.Proper tally.total) (hamount : IsInt64 c.amount)
    (h : Credited headers tally.total c table after) :
    tally.accumulate.run headers d table = (.ok (), after) := by
  cases h with
  | @added front back old new hentries hadds hafter =>
    have hmem : (c.key, old) ∈ table.entries := by
      rw [hentries]
      exact List.mem_append_right front List.mem_cons_self
    have hget := OrderedMap.mem_entries_iff.mp hmem
    rw [run_accumulate_added hd hget (addTo_of_adds hadds)]
    congr 1
    exact OrderedMap.ext ((OrderedMap.insert_entries_of_split hentries _).trans hafter.symm)
  | started habsent hcarries hafter =>
    have hget := OrderedMap.get?_eq_none_iff.mpr habsent
    obtain ⟨new, hrun, hnew⟩ := run_accumulate_started headers hd hproper hamount hget
    obtain rfl := hnew.unique hcarries
    rw [hrun]
    congr 1
    exact OrderedMap.ext ((setEntry_of_not_mem habsent).trans hafter.symm)

/-- No record gets in the way of a tally whose amounts have 64 bits. -/
theorem atomic_of_proper {Gives : Contribution → Prop} (hproper : tally.Proper)
    (hgives : ∀ c, tally.contribution d = .ok c ↔ Gives c)
    (hamount : ∀ c, Gives c → IsInt64 c.amount) (headers : Headers) (table : RecordTable) :
    Atomic tally Gives headers d table := by
  have hamount' : ∀ c, tally.contribution d = .ok c → IsInt64 c.amount := fun c hd =>
    hamount c ((hgives c).mp hd)
  have hends := run_accumulate_ends hproper hamount' headers table
  refine ⟨fun panic h => ?_, fun fault h => ?_, fun after => ⟨fun h => ?_, ?_⟩⟩
  · rcases hends with ⟨c, after, _, hrun, _⟩ | ⟨text, hrun⟩
    · rw [hrun] at h
      cases h
    · rw [hrun] at h
      cases h
  · rcases hends with ⟨c, after, _, hrun, _⟩ | ⟨text, hrun⟩
    · rw [hrun] at h
      cases h
    · rw [hrun]
  · rcases hends with ⟨c, after', hd, hrun, hcredited⟩ | ⟨text, hrun⟩
    · obtain rfl : after' = after := congrArg Prod.snd (hrun.symm.trans h)
      exact ⟨c, (hgives c).mp hd, hcredited⟩
    · rw [hrun] at h
      cases h
  · rintro ⟨c, hc, hcredited⟩
    have hd := (hgives c).mpr hc
    exact run_accumulate_of_credited hd (hproper d c hd) (hamount c hc) hcredited

end Item

/-! ### The tallies -/

/-- An item gives the text of a key in the field `key`, and an integer of 64 bits as its score. -/
def Scores (d : Document) (key : String) (score : Option Document)
    (fields : String → List (String × Document)) (c : Contribution) : Prop :=
  ∃ k v n, HasKey d key k ∧ score = some v ∧ Denotes v n ∧ IsInt64 n ∧ c = ⟨k, n, fields k⟩

section Tallies

variable {d : Document} {c : Contribution}

theorem teamScore_eq_ok_iff :
    teamScore.contribution d = .ok c ↔
      Scores d "team" ((d.field? "score").or (d.field? "userTotalScore"))
        (fun team => [("team", .ofString team)]) c := by
  rw [Scores, ← field?_first]
  exact keyed_eq_ok_iff

theorem userScore_eq_ok_iff :
    userScore.contribution d = .ok c ↔
      Scores d "fullName" (d.field? "score")
        (fun user => [("user", .ofString user), ("team", (d.field? "team").getD .null)]) c :=
  keyed_eq_ok_iff

theorem Scores.isInt64 {key : String} {score : Option Document}
    {fields : String → List (String × Document)} (h : Scores d key score fields c) :
    IsInt64 c.amount := by
  obtain ⟨k, v, n, _, _, _, hn, rfl⟩ := h
  exact hn

/-- For every table and whatever its records are, the tallies of the scores and the count of the
authorizations never panic, fail without a trace, and touch the record of one key. -/
theorem accumulate_atomic (headers : Headers) (d : Document) (table : RecordTable) :
    Atomic teamScore
        (Scores d "team" ((d.field? "score").or (d.field? "userTotalScore"))
          fun team => [("team", .ofString team)])
        headers d table ∧
      Atomic userScore
        (Scores d "fullName" (d.field? "score")
          fun user => [("user", .ofString user), ("team", (d.field? "team").getD .null)])
        headers d table ∧
      Atomic authorizationCount
        (fun c => ∃ card, HasKey d "card_number" card ∧ authorization card = c)
        headers d table := by
  refine ⟨?_, ?_, ?_⟩
  · exact atomic_of_proper teamScore_proper (fun _ => teamScore_eq_ok_iff) (fun _ h => h.isInt64)
      headers table
  · exact atomic_of_proper userScore_proper (fun _ => userScore_eq_ok_iff) (fun _ h => h.isInt64)
      headers table
  · refine atomic_of_proper authorizationCount_proper (fun _ => authorizationCount_eq_ok_iff) ?_
      headers table
    rintro c ⟨card, _, rfl⟩
    show IsInt64 1
    decide

end Tallies

end WindowGateway.Builtin
