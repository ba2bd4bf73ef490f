import WindowGateway.Proofs.Builtin.Totals
import WindowGateway.Proofs.Call.Outcome
import WindowGateway.Proofs.Json.Members

/-! Tallies over a batch. The table of a tally holds, for each key of the contributions read so far,
a record with the exact total of the key. One item keeps this so or fails, and with it a whole
batch: the fold succeeds just if every item can be read and no total leaves 64 bits on the way. -/

namespace WindowGateway.Builtin

open Json (Document Value)

/-! ### Records -/

/-- The bounds of the window, as far as the headers tell them. -/
def boundsOf (headers : Headers) : List (String × Value) :=
  ((headers.get? Headers.windowStart).map fun s => ("from", .string s)).toList ++
    ((headers.get? Headers.windowEnd).map fun s => ("to", .string s)).toList

/-- The members of a record apart from its total. -/
def frontOf (headers : Headers) (first : Contribution) : List (String × Value) :=
  boundsOf headers ++ first.fields.map fun f => (f.1, f.2.value)

/-- A record of `front` and, last, the integer `n` as the member `total`. -/
def Carries (record : Document) (front : List (String × Value)) (total : String) (n : Int) : Prop :=
  ∃ h, record.value = .object (front ++ [(total, .number (.integer n h))])

/-- The record of a key: the bounds of the window, the fields of the contribution that brought the
key, and the sum of all the amounts for the key. -/
def IsRecord (headers : Headers) (total : String) (cs : List Contribution) (key : String)
    (record : Document) : Prop :=
  ∃ first, firstOf? key cs = some first ∧
    Carries record (frontOf headers first) total (totalOf key cs)

/-- The fields of a contribution get in the way neither of each other nor of the bounds of the
window and the total. -/
def Contribution.Proper (total : String) (c : Contribution) : Prop :=
  ("from" :: "to" :: (c.fields.map Prod.fst ++ [total])).Nodup

section Records

variable {headers : Headers} {total : String} {c : Contribution}

theorem keys_boundsOf_sublist (headers : Headers) :
    ((boundsOf headers).map Prod.fst).Sublist ["from", "to"] := by
  rw [boundsOf]
  cases headers.get? Headers.windowStart <;> cases headers.get? Headers.windowEnd <;>
    simp

theorem Contribution.Proper.keys (h : c.Proper total) (headers : Headers) :
    (((frontOf headers c).map Prod.fst) ++ [total]).Nodup := by
  rw [frontOf, List.map_append, List.map_map, List.append_assoc]
  exact ((keys_boundsOf_sublist headers).append_right (c.fields.map Prod.fst ++ [total])).nodup h

theorem stamp_entries (headers : Headers) :
    ((Window.ofHeaders headers).stamp .empty).entries.map (fun e => (e.1, e.2.value)) =
      boundsOf headers := by
  rw [boundsOf, Window.ofHeaders, Window.stamp]
  cases headers.get? Headers.windowStart <;> cases headers.get? Headers.windowEnd <;> rfl

/-- A new record carries a total of zero. -/
theorem carries_newRecord (h : c.Proper total) :
    Carries (newRecord headers (c.fields ++ [(total, zero)])) (frontOf headers c) total 0 := by
  let stamped := (Window.ofHeaders headers).stamp .empty
  have hkeys : ((stamped.entries ++ (c.fields ++ [(total, zero)])).map Prod.fst).Nodup := by
    have hnodup := h.keys headers
    rw [frontOf, ← stamp_entries] at hnodup
    simpa [Function.comp_def] using hnodup
  have hentries := congrArg (List.map fun e => (e.1, e.2.value)) (foldl_insert_entries hkeys)
  rw [List.map_append, stamp_entries, List.map_append, ← List.append_assoc] at hentries
  exact ⟨by decide, congrArg Value.object hentries⟩

end Records

section Carried

variable {record : Document} {front : List (String × Value)} {total : String} {n : Int}

theorem Carries.not_mem (h : Carries record front total n) : total ∉ front.map Prod.fst := by
  obtain ⟨_, hvalue⟩ := h
  have hdistinct := Document.distinct_of_object hvalue
  rw [List.map_append] at hdistinct
  intro hmem
  exact (List.nodup_append.mp hdistinct).2.2 total hmem total (List.mem_singleton_self total) rfl

theorem Carries.unique {other : Document} (h : Carries record front total n)
    (ho : Carries other front total n) : record = other := by
  obtain ⟨_, hvalue⟩ := h
  obtain ⟨_, hother⟩ := ho
  exact Document.ext (hvalue.trans hother.symm)

theorem Carries.integerField (h : Carries record front total n) (hn : IsInt64 n) :
    Builtin.integerField record total = .ok n := by
  obtain ⟨hrange, hvalue⟩ := h
  have hfield : record.field? total = some (.ofNumber (.integer n hrange)) :=
    Document.field?_of_mem hvalue (List.mem_append_right _ (List.mem_singleton_self _))
  exact integerField_eq_ok_iff.mpr ⟨_, hfield, .number rfl, hn⟩

theorem int64?_of_isInt64 (h : IsInt64 n) :
    ∃ hrange, int64? n = some (Document.ofNumber (.integer n hrange)) := by
  have hrange : -0x8000000000000000 ≤ n ∧ n < 0x10000000000000000 :=
    ⟨h.1, Int.lt_trans h.2 (by decide)⟩
  refine ⟨hrange, ?_⟩
  rw [int64?, if_pos h.2, Document.ofInt?, Json.Number.ofInt?, dif_pos hrange]
  rfl

theorem int64?_of_not_isInt64 (h : ¬IsInt64 n) : int64? n = none := by
  rw [int64?]
  split
  · next hlt =>
    have hrange : ¬(-0x8000000000000000 ≤ n ∧ n < 0x10000000000000000) := fun hr => h ⟨hr.1, hlt⟩
    rw [Document.ofInt?, Json.Number.ofInt?, dif_neg hrange]
    rfl
  · rfl

/-- Adding to the total of a record changes nothing else in it. -/
theorem Carries.addTo (h : Carries record front total n) (hn : IsInt64 n) {amount : Int}
    (hsum : IsInt64 (n + amount)) :
    ∃ record', Builtin.addTo record total amount = .ok record' ∧
      Carries record' front total (n + amount) := by
  obtain ⟨hrange, hdocument⟩ := int64?_of_isInt64 hsum
  have hnew := h.not_mem
  have hcurrent := h.integerField hn
  obtain ⟨_, hvalue⟩ := h
  obtain ⟨record', hset, hvalue'⟩ :=
    Document.setField?_of_object hvalue total (.ofNumber (.integer (n + amount) hrange))
  refine ⟨record', ?_, hrange, ?_⟩
  · rw [Builtin.addTo, hcurrent]
    simp only [hdocument, hset]
  · rw [hvalue', setEntry_append_of_not_mem hnew, setEntry, if_pos rfl]
    rfl

theorem Carries.addTo_overflow (h : Carries record front total n) (hn : IsInt64 n) {amount : Int}
    (hsum : ¬IsInt64 (n + amount)) :
    Builtin.addTo record total amount = .error (.failed (FieldFault.overflow total).message) := by
  rw [Builtin.addTo, h.integerField hn]
  simp only [int64?_of_not_isInt64 hsum]

end Carried

/-! ### One item -/

/-- A table that holds the tally of a list of contributions. -/
structure Tallied (headers : Headers) (total : String) (cs : List Contribution)
    (table : RecordTable) : Prop where
  keys : table.keys = keysOf cs
  records : ∀ key record, table.get? key = some record → IsRecord headers total cs key record
  bounded : Bounded cs

/-- What an item contributes never gets in the way of the total. -/
def Tally.Proper (tally : Tally) : Prop :=
  ∀ d c, tally.contribution d = .ok c → c.Proper tally.total

section Step

variable {headers : Headers} {total : String} {cs : List Contribution} {c : Contribution}
  {table : RecordTable}

theorem tallied_empty (headers : Headers) (total : String) : Tallied headers total [] .empty where
  keys := rfl
  records _ _ h := by cases h
  bounded := bounded_nil

/-- The record of a contribution's key is there, or is new with a total of zero; the keys are then
those with the contribution. -/
theorem Tallied.opened (ht : Tallied headers total cs table) (hc : c.Proper total) :
    ∃ first record opened,
      table.getOrInsert c.key (newRecord headers (c.fields ++ [(total, zero)])) =
        (record, opened) ∧
      firstOf? c.key (cs ++ [c]) = some first ∧
      Carries record (frontOf headers first) total (totalOf c.key cs) ∧
      opened.keys = keysOf (cs ++ [c]) ∧ ∀ key ≠ c.key, opened.get? key = table.get? key := by
  cases hget : table.get? c.key with
  | some record =>
    have hmem : c.key ∈ keysOf cs := ht.keys ▸ OrderedMap.mem_keys_of_get? hget
    obtain ⟨first, hfirst, hcarries⟩ := ht.records _ _ hget
    refine ⟨first, record, table, OrderedMap.getOrInsert_of_some hget _,
      firstOf?_concat_of_some hfirst, hcarries, ?_, fun _ _ => rfl⟩
    rw [keysOf_concat, if_pos hmem, ht.keys]
  | none =>
    have hnew : c.key ∉ keysOf cs := ht.keys ▸ OrderedMap.get?_eq_none_iff.mp hget
    refine ⟨c, _, _, OrderedMap.getOrInsert_of_none hget _, firstOf?_concat_self hnew, ?_, ?_,
      fun key hkey => OrderedMap.get?_insert_ne table hkey _⟩
    · rw [totalOf_of_not_mem hnew]
      exact carries_newRecord hc
    · rw [OrderedMap.keys_insert, keysOf_concat, ht.keys]

/-- Putting the new total into the record of its key gives the tally with the contribution. -/
theorem Tallied.closed (ht : Tallied headers total cs table) {opened : RecordTable}
    (hkeys : opened.keys = keysOf (cs ++ [c]))
    (hothers : ∀ key ≠ c.key, opened.get? key = table.get? key) {first : Contribution}
    (hfirst : firstOf? c.key (cs ++ [c]) = some first) {record : Document}
    (hrecord : Carries record (frontOf headers first) total (totalOf c.key (cs ++ [c])))
    (hsum : IsInt64 (totalOf c.key (cs ++ [c]))) :
    Tallied headers total (cs ++ [c]) (opened.insert c.key record) where
  keys := by
    have hmem : c.key ∈ keysOf (cs ++ [c]) := mem_keysOf.mpr ⟨c, by simp, rfl⟩
    rw [OrderedMap.keys_insert, hkeys, if_pos hmem]
  records key other hget := by
    by_cases hkey : key = c.key
    · subst hkey
      rw [OrderedMap.get?_insert_self] at hget
      obtain rfl : record = other := Option.some.inj hget
      exact ⟨first, hfirst, hrecord⟩
    · rw [OrderedMap.get?_insert_ne _ hkey, hothers key hkey] at hget
      obtain ⟨first, hfirst, hcarries⟩ := ht.records key other hget
      refine ⟨first, firstOf?_concat_of_some hfirst, ?_⟩
      rwa [totalOf_concat_ne (Ne.symm hkey)]
  bounded := bounded_concat ht.bounded hsum

variable {tally : Tally} {d : Document}

theorem run_accumulate_fault {fault : FieldFault} (hd : tally.contribution d = .error fault) :
    tally.accumulate.run headers d table = (.error (.failed fault.message), table) := by
  simp only [Accumulate.run, Tally.accumulate, hd]
  rfl

/-- An item that can be read, and keeps the total of its key in 64 bits, goes into the tally. -/
theorem run_accumulate_ok (hproper : tally.Proper) (hd : tally.contribution d = .ok c)
    (ht : Tallied headers tally.total cs table) (hsum : IsInt64 (totalOf c.key (cs ++ [c]))) :
    ∃ next, tally.accumulate.run headers d table = (.ok (), next) ∧
      Tallied headers tally.total (cs ++ [c]) next := by
  obtain ⟨first, record, opened, hopened, hfirst, hcarries, hkeys, hothers⟩ :=
    ht.opened (hproper d c hd)
  rw [totalOf_concat_self] at hsum
  obtain ⟨record', hadd, hcarries'⟩ := hcarries.addTo (ht.bounded.total c.key) hsum
  rw [← totalOf_concat_self] at hsum hcarries'
  refine ⟨opened.insert c.key record', ?_, ht.closed hkeys hothers hfirst hcarries' hsum⟩
  simp only [Accumulate.run, Tally.accumulate, hd, ExceptT.run_mk, StateT.run, hopened, hadd]

theorem run_accumulate_overflow (hproper : tally.Proper) (hd : tally.contribution d = .ok c)
    (ht : Tallied headers tally.total cs table) (hsum : ¬IsInt64 (totalOf c.key (cs ++ [c]))) :
    ∃ left, tally.accumulate.run headers d table =
      (.error (.failed (FieldFault.overflow tally.total).message), left) := by
  obtain ⟨first, record, opened, hopened, _, hcarries, _, _⟩ := ht.opened (hproper d c hd)
  rw [totalOf_concat_self] at hsum
  have hadd := hcarries.addTo_overflow (ht.bounded.total c.key) hsum
  refine ⟨opened, ?_⟩
  simp only [Accumulate.run, Tally.accumulate, hd, ExceptT.run_mk, StateT.run, hopened, hadd]

end Step

/-! ### A batch -/

/-- What the text of an item contributes to a tally. -/
def Tally.Reads (tally : Tally) (bytes : List UInt8) (c : Contribution) : Prop :=
  ∃ d, ItemHolds bytes d ∧ tally.contribution d = .ok c

theorem Tally.rightUnique_reads (tally : Tally) : Relator.RightUnique tally.Reads := by
  rintro bytes c e ⟨d, hd, hc⟩ ⟨d', hd', he⟩
  obtain rfl : d = d' := hd.unique hd'
  exact Except.ok.inj (hc.symm.trans he)

section Batch

variable {tally : Tally} {headers : Headers} {cs ds : List Contribution} {c : Contribution}
  {table folded : RecordTable} {index : Nat} {bytes : List UInt8} {items : List (List UInt8)}

theorem foldItem_tally (index : Nat) (hproper : tally.Proper)
    (ht : Tallied headers tally.total cs table) (hreads : tally.Reads bytes c)
    (hsum : IsInt64 (totalOf c.key (cs ++ [c]))) :
    ∃ next, foldItem tally.accumulate headers index table bytes = .ok next ∧
      Tallied headers tally.total (cs ++ [c]) next := by
  obtain ⟨d, hholds, hd⟩ := hreads
  obtain ⟨next, hrun, hnext⟩ := run_accumulate_ok hproper hd ht hsum
  refine ⟨next, ?_, hnext⟩
  simp only [foldItem, decodeItem_eq_ok_iff.mpr hholds, hrun]

theorem tally_of_foldItem (hproper : tally.Proper) (ht : Tallied headers tally.total cs table)
    {next : RecordTable} (h : foldItem tally.accumulate headers index table bytes = .ok next) :
    ∃ c, tally.Reads bytes c ∧ Tallied headers tally.total (cs ++ [c]) next := by
  cases hitem : decodeItem index bytes with
  | error e => simp [foldItem, hitem] at h
  | ok d =>
    cases hd : tally.contribution d with
    | error fault =>
      simp only [foldItem, hitem, run_accumulate_fault hd] at h
      cases h
    | ok c =>
      refine ⟨c, ⟨d, decodeItem_eq_ok_iff.mp hitem, hd⟩, ?_⟩
      by_cases hsum : IsInt64 (totalOf c.key (cs ++ [c]))
      · obtain ⟨reached, hrun, hreached⟩ := run_accumulate_ok hproper hd ht hsum
        simp only [foldItem, hitem, hrun] at h
        obtain rfl : reached = next := Except.ok.inj h
        exact hreached
      · obtain ⟨left, hrun⟩ := run_accumulate_overflow hproper hd ht hsum
        simp only [foldItem, hitem, hrun] at h
        cases h

theorem foldItem_overflow (index : Nat) (hproper : tally.Proper)
    (ht : Tallied headers tally.total cs table) (hreads : tally.Reads bytes c)
    (hsum : ¬IsInt64 (totalOf c.key (cs ++ [c]))) :
    foldItem tally.accumulate headers index table bytes =
      .error (.hook .accumulate (FieldFault.overflow tally.total).message) := by
  obtain ⟨d, hholds, hd⟩ := hreads
  obtain ⟨left, hrun⟩ := run_accumulate_overflow hproper hd ht hsum
  simp only [foldItem, decodeItem_eq_ok_iff.mpr hholds, hrun]
  rfl

/-- A fold over items that can be read, none of which takes a total out of 64 bits, tallies them. -/
theorem foldFrom_tally (index : Nat) (hproper : tally.Proper)
    (ht : Tallied headers tally.total cs table) (hreads : List.Forall₂ tally.Reads items ds)
    (hbounded : Bounded (cs ++ ds)) :
    ∃ folded, (foldFrom tally.accumulate headers index table items).result = .ok folded ∧
      Tallied headers tally.total (cs ++ ds) folded := by
  induction hreads generalizing index table cs with
  | nil => exact ⟨table, rfl, by rwa [List.append_nil]⟩
  | @cons bytes c items ds hc _ ih =>
    rw [List.append_cons] at hbounded
    have hsum : IsInt64 (totalOf c.key (cs ++ [c])) := hbounded.of_append.total c.key
    obtain ⟨next, hitem, hnext⟩ := foldItem_tally index hproper ht hc hsum
    obtain ⟨folded, hrest, hfolded⟩ := ih (index + 1) hnext hbounded
    refine ⟨folded, ?_, by rwa [List.append_cons]⟩
    rw [foldFrom_cons_result, hitem]
    exact hrest

/-- A fold over items that can be read ends in an overflow if they take a total out of 64 bits. -/
theorem foldFrom_overflow (index : Nat) (hproper : tally.Proper)
    (ht : Tallied headers tally.total cs table) (hreads : List.Forall₂ tally.Reads items ds)
    (hoverflow : ¬Bounded (cs ++ ds)) :
    (foldFrom tally.accumulate headers index table items).result =
      .error (.hook .accumulate (FieldFault.overflow tally.total).message) := by
  induction hreads generalizing index table cs with
  | nil =>
    rw [List.append_nil] at hoverflow
    exact absurd ht.bounded hoverflow
  | @cons bytes c items ds hc _ ih =>
    rw [foldFrom_cons_result]
    by_cases hsum : IsInt64 (totalOf c.key (cs ++ [c]))
    · obtain ⟨next, hitem, hnext⟩ := foldItem_tally index hproper ht hc hsum
      rw [hitem]
      rw [List.append_cons] at hoverflow
      exact ih (index + 1) hnext hoverflow
    · rw [foldItem_overflow index hproper ht hc hsum]
      rfl

theorem tally_of_foldFrom (hproper : tally.Proper) (ht : Tallied headers tally.total cs table)
    (h : (foldFrom tally.accumulate headers index table items).result = .ok folded) :
    ∃ ds, List.Forall₂ tally.Reads items ds ∧ Tallied headers tally.total (cs ++ ds) folded := by
  induction items generalizing index table cs with
  | nil =>
    obtain rfl : table = folded := Except.ok.inj h
    exact ⟨[], .nil, by rwa [List.append_nil]⟩
  | cons bytes items ih =>
    rw [foldFrom_cons_result] at h
    cases hitem : foldItem tally.accumulate headers index table bytes with
    | error e =>
      rw [hitem] at h
      cases h
    | ok next =>
      rw [hitem] at h
      obtain ⟨c, hc, hnext⟩ := tally_of_foldItem hproper ht hitem
      obtain ⟨ds, hds, hfolded⟩ := ih hnext h
      exact ⟨c :: ds, .cons hc hds, by rwa [List.append_cons]⟩

/-- What can end a fold that tallies `items` after the contributions `cs`: an item that holds no
document, one that contributes nothing, or a total that leaves 64 bits. -/
inductive Tally.Fails (tally : Tally) (cs : List Contribution) (items : List (List UInt8)) :
    CallError → Prop
  | malformed {index : Nat} {fault : ItemFault} : tally.Fails cs items (.malformedItem index fault)
  | unread {d : Document} {fault : FieldFault} (hd : tally.contribution d = .error fault) :
    tally.Fails cs items (.hook .accumulate fault.message)
  | overflow {front : List (List UInt8)} {ds : List Contribution} (hfront : front <+: items)
      (hreads : List.Forall₂ tally.Reads front ds) (hbounded : ¬Bounded (cs ++ ds)) :
    tally.Fails cs items (.hook .accumulate (FieldFault.overflow tally.total).message)

theorem fails_of_foldItem (hproper : tally.Proper) (ht : Tallied headers tally.total cs table)
    {e : CallError} (h : foldItem tally.accumulate headers index table bytes = .error e) :
    tally.Fails cs [bytes] e := by
  cases hitem : decodeItem index bytes with
  | error e' =>
    simp only [foldItem, hitem] at h
    obtain ⟨fault, -, rfl⟩ := decodeItem_eq_error_iff.mp hitem
    obtain rfl := Except.error.inj h
    exact .malformed
  | ok d =>
    cases hd : tally.contribution d with
    | error fault =>
      simp only [foldItem, hitem, run_accumulate_fault hd] at h
      obtain rfl := Except.error.inj h
      exact .unread hd
    | ok c =>
      by_cases hsum : IsInt64 (totalOf c.key (cs ++ [c]))
      · obtain ⟨next, hrun, _⟩ := run_accumulate_ok hproper hd ht hsum
        simp only [foldItem, hitem, hrun] at h
        cases h
      · obtain ⟨left, hrun⟩ := run_accumulate_overflow hproper hd ht hsum
        simp only [foldItem, hitem, hrun] at h
        obtain rfl := Except.error.inj h
        have hreads : tally.Reads bytes c := ⟨d, decodeItem_eq_ok_iff.mp hitem, hd⟩
        exact .overflow (List.prefix_refl _) (.cons hreads .nil) fun hb => hsum (hb.total c.key)

/-- A failure after one more contribution is a failure of the batch that begins with it. -/
theorem Tally.Fails.cons {e : CallError} (hc : tally.Reads bytes c)
    (h : tally.Fails (cs ++ [c]) items e) : tally.Fails cs (bytes :: items) e := by
  cases h with
  | malformed => exact .malformed
  | unread hd => exact .unread hd
  | overflow hfront hreads hbounded =>
    rw [← List.append_cons] at hbounded
    exact .overflow (List.cons_prefix_cons.mpr ⟨rfl, hfront⟩) (.cons hc hreads) hbounded

theorem Tally.Fails.of_head {e : CallError} (h : tally.Fails cs [bytes] e) :
    tally.Fails cs (bytes :: items) e := by
  cases h with
  | malformed => exact .malformed
  | unread hd => exact .unread hd
  | overflow hfront hreads hbounded =>
    exact .overflow (hfront.trans (List.prefix_append [bytes] items)) hreads hbounded

theorem fails_of_foldFrom (hproper : tally.Proper) (ht : Tallied headers tally.total cs table)
    {e : CallError} (h : (foldFrom tally.accumulate headers index table items).result = .error e) :
    tally.Fails cs items e := by
  induction items generalizing index table cs with
  | nil =>
    have hok : Except.ok table = Except.error e := h
    cases hok
  | cons bytes items ih =>
    rw [foldFrom_cons_result] at h
    cases hitem : foldItem tally.accumulate headers index table bytes with
    | error e' =>
      rw [hitem] at h
      obtain rfl : e' = e := Except.error.inj h
      exact (fails_of_foldItem hproper ht hitem).of_head
    | ok next =>
      rw [hitem] at h
      obtain ⟨c, hc, hnext⟩ := tally_of_foldItem hproper ht hitem
      exact (ih hnext h).cons hc

theorem fold_tally (headers : Headers) (hproper : tally.Proper)
    (hreads : List.Forall₂ tally.Reads items cs) (hbounded : Bounded cs) :
    ∃ folded, (fold tally.accumulate headers items).result = .ok folded ∧
      Tallied headers tally.total cs folded :=
  foldFrom_tally 0 hproper (tallied_empty headers tally.total) hreads hbounded

theorem fold_overflow (headers : Headers) (hproper : tally.Proper)
    (hreads : List.Forall₂ tally.Reads items cs) (hoverflow : ¬Bounded cs) :
    (fold tally.accumulate headers items).result =
      .error (.hook .accumulate (FieldFault.overflow tally.total).message) :=
  foldFrom_overflow 0 hproper (tallied_empty headers tally.total) hreads hoverflow

theorem tally_of_fold (hproper : tally.Proper)
    (h : (fold tally.accumulate headers items).result = .ok folded) :
    ∃ cs, List.Forall₂ tally.Reads items cs ∧ Tallied headers tally.total cs folded :=
  tally_of_foldFrom hproper (tallied_empty headers tally.total) h

theorem fails_of_fold (hproper : tally.Proper) {e : CallError}
    (h : (fold tally.accumulate headers items).result = .error e) : tally.Fails [] items e :=
  fails_of_foldFrom hproper (tallied_empty headers tally.total) h

/-- The total can be read back from the record of a key. -/
theorem Tallied.integerField {total : String} (ht : Tallied headers total cs table) {key : String}
    {record : Document} (hget : table.get? key = some record) :
    Builtin.integerField record total = .ok (totalOf key cs) := by
  obtain ⟨first, _, hcarries⟩ := ht.records key record hget
  exact hcarries.integerField (ht.bounded.total key)

/-- One record for each key, in the order in which the keys came. -/
theorem Tallied.values {total : String} (ht : Tallied headers total cs table) :
    List.Forall₂ (IsRecord headers total cs) (keysOf cs) table.values := by
  rw [← ht.keys]
  exact OrderedMap.forall₂_keys_values ht.records

end Batch

end WindowGateway.Builtin
