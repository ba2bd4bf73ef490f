import Mathlib.Data.List.Induction
import WindowGateway.Proofs.Builtin.Field
import WindowGateway.Proofs.Call.Chronicle
import WindowGateway.Proofs.Call.Stages

/-! The first failure decides a fold. A fold that comes to its end has folded every item once, in
order; otherwise it ends in the error of the first item at which it stops, and neither the items
after that one nor what the hook would do with them play a part. -/

namespace WindowGateway

open Json (Document)

/-- The items hold documents, and the hook folded each of these once, in order, from the empty table
to the given one. -/
inductive Folded (hook : Accumulate) (headers : Headers) :
    List (List UInt8) → RecordTable → Prop
  | nil : Folded hook headers [] .empty
  | snoc {before : List (List UInt8)} {table next : RecordTable} {bytes : List UInt8} {d : Document}
      (folded : Folded hook headers before table) (holds : ItemHolds bytes d)
      (run : hook.run headers d table = (.ok (), next)) :
    Folded hook headers (before ++ [bytes]) next

/-- The fold cannot go past item `i`, for the given error: the item holds no document, or the hook
fails or panics on the document in the table that the items before it leave. -/
inductive StopsAt (hook : Accumulate) (headers : Headers) (items : List (List UInt8)) (i : Nat) :
    CallError → Prop
  | malformed {bytes : List UInt8} {fault : ItemFault} (item : items[i]? = some bytes)
      (spoiled : Spoiled bytes fault) :
    StopsAt hook headers items i (.malformedItem i fault)
  | failed {bytes : List UInt8} {d : Document} {table : RecordTable} {text : String}
      (item : items[i]? = some bytes) (holds : ItemHolds bytes d)
      (folded : Folded hook headers (items.take i) table)
      (run : (hook.run headers d table).1 = .error (.failed text)) :
    StopsAt hook headers items i (.hook .accumulate text)
  | panicked {bytes : List UInt8} {d : Document} {table : RecordTable} {panic : Panic}
      (item : items[i]? = some bytes) (holds : ItemHolds bytes d)
      (folded : Folded hook headers (items.take i) table)
      (run : (hook.run headers d table).1 = .error (.panicked panic)) :
    StopsAt hook headers items i
      (.hook .accumulate
        ("hook panicked: " ++ panic.text.getD "non-string panic payload"))

/-- Item `i` is the first that the fold cannot go past. -/
structure FirstStop (hook : Accumulate) (headers : Headers) (items : List (List UInt8)) (i : Nat)
    (e : CallError) : Prop where
  stops : StopsAt hook headers items i e
  first : ∀ j < i, ∀ e', ¬StopsAt hook headers items j e'

/-- Two hooks do the same on item `i`, in the table that the first of them leaves before it. -/
def SameAt (hook other : Accumulate) (headers : Headers) (items : List (List UInt8)) (i : Nat) :
    Prop :=
  ∀ bytes d table, items[i]? = some bytes → ItemHolds bytes d →
    Folded hook headers (items.take i) table → other.run headers d table = hook.run headers d table

section Fold

variable {hook other : Accumulate} {headers : Headers} {items others : List (List UInt8)}
  {table : RecordTable} {bytes : List UInt8} {i j : Nat} {e : CallError}

/-! ### Folds that come to their end -/

theorem foldItem_eq_ok_iff {next : RecordTable} :
    foldItem hook headers i table bytes = .ok next ↔
      ∃ d, ItemHolds bytes d ∧ hook.run headers d table = (.ok (), next) := by
  cases hitem : decodeItem i bytes with
  | error e =>
    have hnone : ¬∃ d, ItemHolds bytes d := by
      rintro ⟨d, hd⟩
      rw [decodeItem_eq_ok_iff.mpr hd] at hitem
      cases hitem
    simp only [foldItem, hitem]
    constructor
    · intro h
      cases h
    · rintro ⟨d, hd, _⟩
      exact absurd ⟨d, hd⟩ hnone
  | ok d =>
    have hd := decodeItem_eq_ok_iff.mp hitem
    simp only [foldItem, hitem]
    constructor
    · intro h
      split at h
      · next next' hrun =>
        obtain rfl : next' = next := Except.ok.inj h
        exact ⟨d, hd, hrun⟩
      · cases h
    · rintro ⟨d', hd', hrun⟩
      obtain rfl : d = d' := hd.unique hd'
      rw [hrun]

theorem fold_eq_ok_iff :
    (fold hook headers items).result = .ok table ↔ Folded hook headers items table := by
  constructor
  · intro h
    induction items using List.reverseRecOn generalizing table with
    | nil =>
      obtain rfl : .empty = table := Except.ok.inj h
      exact .nil
    | append_singleton before bytes ih =>
      cases hbefore : (fold hook headers before).result with
      | error e =>
        rw [fold_append_error hbefore] at h
        cases h
      | ok reached =>
        rw [fold_concat hbefore, foldItem_eq_ok_iff] at h
        obtain ⟨d, hd, hrun⟩ := h
        exact .snoc (ih hbefore) hd hrun
  · intro h
    induction h with
    | nil => rfl
    | snoc _ hd hrun ih => rw [fold_concat ih, foldItem_eq_ok_iff.mpr ⟨_, hd, hrun⟩]

theorem Folded.unique {table' : RecordTable} (h : Folded hook headers items table)
    (h' : Folded hook headers items table') : table = table' :=
  Except.ok.inj ((fold_eq_ok_iff.mpr h).symm.trans (fold_eq_ok_iff.mpr h'))

/-! ### Where a fold stops -/

/-- Where a fold stops is settled by the items up to there. -/
theorem StopsAt.congr (h : StopsAt hook headers items i e)
    (hsame : others.take (i + 1) = items.take (i + 1)) : StopsAt hook headers others i e := by
  have hitem : others[i]? = items[i]? := by
    rw [← List.getElem?_take_of_succ, hsame, List.getElem?_take_of_succ]
  have htake : others.take i = items.take i := by
    have hshorter := congrArg (List.take i) hsame
    rwa [List.take_take, List.take_take, Nat.min_eq_left (Nat.le_succ i)] at hshorter
  cases h with
  | malformed hbytes hspoiled => exact .malformed (hitem.trans hbytes) hspoiled
  | failed hbytes hd hf hrun => exact .failed (hitem.trans hbytes) hd (htake ▸ hf) hrun
  | panicked hbytes hd hf hrun => exact .panicked (hitem.trans hbytes) hd (htake ▸ hf) hrun

/-- Behind items that are folded, the fold stops just if it fails to fold the next one. -/
theorem stopsAt_iff_foldItem (hitem : items[i]? = some bytes)
    (hf : Folded hook headers (items.take i) table) :
    StopsAt hook headers items i e ↔ foldItem hook headers i table bytes = .error e := by
  constructor
  · intro h
    cases h with
    | malformed hbytes hspoiled =>
      obtain rfl := Option.some.inj (hitem.symm.trans hbytes)
      simp only [foldItem, decodeItem_eq_error_iff.mpr ⟨_, hspoiled, rfl⟩]
    | failed hbytes hd hf' hrun =>
      obtain rfl := Option.some.inj (hitem.symm.trans hbytes)
      obtain rfl := hf.unique hf'
      exact foldItem_broken (decodeItem_eq_ok_iff.mpr hd) hrun
    | panicked hbytes hd hf' hrun =>
      obtain rfl := Option.some.inj (hitem.symm.trans hbytes)
      obtain rfl := hf.unique hf'
      exact foldItem_broken (decodeItem_eq_ok_iff.mpr hd) hrun
  · intro h
    cases hdecoded : decodeItem i bytes with
    | error e' =>
      simp only [foldItem, hdecoded] at h
      obtain rfl := Except.error.inj h
      obtain ⟨fault, hspoiled, rfl⟩ := decodeItem_eq_error_iff.mp hdecoded
      exact .malformed hitem hspoiled
    | ok d =>
      have hd := decodeItem_eq_ok_iff.mp hdecoded
      cases hrun : (hook.run headers d table).1 with
      | ok _ =>
        rw [foldItem_eq_ok_iff.mpr ⟨d, hd, Prod.ext hrun rfl⟩] at h
        cases h
      | error fault =>
        rw [foldItem_broken hdecoded hrun] at h
        obtain rfl := Except.error.inj h
        cases fault with
        | failed text => exact .failed hitem hd hf hrun
        | panicked panic => exact .panicked hitem hd hf hrun

theorem StopsAt.lt_length (h : StopsAt hook headers items i e) : i < items.length := by
  cases h with
  | malformed hitem _ => exact (List.getElem?_eq_some_iff.mp hitem).1
  | failed hitem => exact (List.getElem?_eq_some_iff.mp hitem).1
  | panicked hitem => exact (List.getElem?_eq_some_iff.mp hitem).1

/-- A fold that comes to its end stops nowhere. -/
theorem Folded.not_stopsAt (h : Folded hook headers items table) :
    ¬StopsAt hook headers items i e := by
  intro hstops
  have hlt := hstops.lt_length
  induction h with
  | nil => exact absurd hlt (Nat.not_lt_zero i)
  | @snoc before table next bytes d hf hd hrun ih =>
    rw [List.length_append, List.length_singleton, Nat.lt_succ_iff] at hlt
    rcases Nat.lt_or_eq_of_le hlt with hlt | rfl
    · exact ih (hstops.congr (List.take_append_of_le_length hlt).symm) hlt
    · have hitem : (before ++ [bytes])[before.length]? = some bytes := List.getElem?_concat_length
      have hbefore : Folded hook headers ((before ++ [bytes]).take before.length) table := by
        rwa [List.take_left]
      rw [stopsAt_iff_foldItem hitem hbefore, foldItem_eq_ok_iff.mpr ⟨d, hd, hrun⟩] at hstops
      cases hstops

/-- A fold that ends in an error stops somewhere, with all items before folded. -/
theorem stopsAt_of_fold (h : (fold hook headers items).result = .error e) :
    ∃ i table, StopsAt hook headers items i e ∧ Folded hook headers (items.take i) table := by
  induction items using List.reverseRecOn with
  | nil => cases h
  | append_singleton before bytes ih =>
    cases hbefore : (fold hook headers before).result with
    | error e' =>
      rw [fold_append_error hbefore] at h
      obtain rfl := Except.error.inj h
      obtain ⟨i, table, hstops, hf⟩ := ih hbefore
      have hlt := hstops.lt_length
      refine ⟨i, table, hstops.congr (List.take_append_of_le_length hlt), ?_⟩
      rwa [List.take_append_of_le_length (Nat.le_of_lt hlt)]
    | ok table =>
      rw [fold_concat hbefore] at h
      have hf : Folded hook headers ((before ++ [bytes]).take before.length) table := by
        rw [List.take_left]
        exact fold_eq_ok_iff.mp hbefore
      exact ⟨_, table, (stopsAt_iff_foldItem List.getElem?_concat_length hf).mpr h, hf⟩

theorem firstStop_of_folded (hstops : StopsAt hook headers items i e)
    (hf : Folded hook headers (items.take i) table) : FirstStop hook headers items i e where
  stops := hstops
  first j hj e' hstops' := by
    refine hf.not_stopsAt (hstops'.congr ?_)
    rw [List.take_take, Nat.min_eq_left hj]

/-- A fold ends in an error just if the error is that of the first item at which it stops. -/
theorem fold_eq_error_iff :
    (fold hook headers items).result = .error e ↔ ∃ i, FirstStop hook headers items i e := by
  constructor
  · intro h
    obtain ⟨i, table, hstops, hf⟩ := stopsAt_of_fold h
    exact ⟨i, firstStop_of_folded hstops hf⟩
  · rintro ⟨i, hstops, hfirst⟩
    -- The items before the first stop are folded, since the fold over them stops nowhere.
    have hlt := hstops.lt_length
    have hsplit : items = items.take i ++ [items[i]] ++ items.drop (i + 1) := by
      rw [List.take_append_getElem, List.take_append_drop]
    cases hbefore : (fold hook headers (items.take i)).result with
    | error e' =>
      obtain ⟨j, _, hstops', _⟩ := stopsAt_of_fold hbefore
      have hj : j < i := Nat.lt_of_lt_of_le hstops'.lt_length (List.length_take_le i items)
      refine absurd (hstops'.congr ?_) (hfirst j hj e')
      rw [List.take_take, Nat.min_eq_left hj]
    | ok table =>
      have hitem := (stopsAt_iff_foldItem (List.getElem?_eq_getElem hlt)
        (fold_eq_ok_iff.mp hbefore)).mp hstops
      have hconcat := fold_concat hbefore items[i]
      rw [List.length_take_of_le (Nat.le_of_lt hlt), hitem] at hconcat
      rw [hsplit]
      exact fold_append_error hconcat _

/-- The items up to the first stop settle the error. -/
theorem FirstStop.congr (h : FirstStop hook headers items i e)
    (hsame : others.take (i + 1) = items.take (i + 1)) : FirstStop hook headers others i e where
  stops := h.stops.congr hsame
  first j hj e' hstops := by
    refine h.first j hj e' (hstops.congr ?_)
    have hshorter := congrArg (List.take (j + 1)) hsame.symm
    rwa [List.take_take, List.take_take, Nat.min_eq_left (by omega)] at hshorter

/-! ### What else the hook would do -/

theorem foldItem_congr (h : ∀ d, ItemHolds bytes d →
    other.run headers d table = hook.run headers d table) :
    foldItem other headers i table bytes = foldItem hook headers i table bytes := by
  cases hdecoded : decodeItem i bytes with
  | error e => simp only [foldItem, hdecoded]
  | ok d => simp only [foldItem, hdecoded, h d (decodeItem_eq_ok_iff.mp hdecoded)]

/-- A hook that does the same wherever the fold comes to gives the same fold, with the same log. -/
theorem foldFrom_congr {before : List (List UInt8)} (hf : Folded hook headers before table)
    (h : ∀ j, SameAt hook other headers (before ++ items) j) :
    foldFrom other headers before.length table items =
      foldFrom hook headers before.length table items := by
  induction items generalizing before table with
  | nil => rfl
  | cons bytes items ih =>
    have hsame : foldItem other headers before.length table bytes =
        foldItem hook headers before.length table bytes := by
      refine foldItem_congr fun d hd => h before.length bytes d table ?_ hd ?_
      · rw [List.getElem?_append_right (Nat.le_refl _), Nat.sub_self, List.getElem?_cons_zero]
      · rwa [List.take_left]
    cases hitem : foldItem hook headers before.length table bytes with
    | error e =>
      rw [foldFrom_cons_of_error hitem, foldFrom_cons_of_error (hsame.trans hitem)]
    | ok next =>
      obtain ⟨d, hd, hrun⟩ := foldItem_eq_ok_iff.mp hitem
      rw [List.append_cons] at h
      have hrest := ih (hf.snoc hd hrun) h
      rw [List.length_append, List.length_singleton] at hrest
      rw [foldFrom_cons_of_ok hitem, foldFrom_cons_of_ok (hsame.trans hitem), hrest]

theorem fold_congr (h : FirstStop hook headers items i e)
    (hsame : ∀ j ≤ i, SameAt hook other headers items j) :
    fold other headers items = fold hook headers items := by
  have hall : ∀ j, SameAt hook other headers ([] ++ items) j := by
    intro j bytes d table hitem hd hf
    by_cases hj : j ≤ i
    · exact hsame j hj bytes d table hitem hd hf
    -- Behind the first stop there is no table.
    · have hprefix : (items.take j).take (i + 1) = items.take (i + 1) := by
        rw [List.take_take, Nat.min_eq_left (by omega)]
      exact absurd (h.stops.congr hprefix) hf.not_stopsAt
  exact foldFrom_congr .nil hall

end Fold

/-- A fold has a table just if every item is folded in its turn, and otherwise the error of the
first item at which it stops. From that item on nothing plays a part: neither what the items after
it are, nor what the hook would do with them. -/
theorem fold_firstFailure (hook : Accumulate) (headers : Headers) (items : List (List UInt8)) :
    (∀ table, (fold hook headers items).result = .ok table ↔ Folded hook headers items table) ∧
    (∀ e, (fold hook headers items).result = .error e ↔
      ∃ i, FirstStop hook headers items i e) ∧
    ∀ i e, FirstStop hook headers items i e →
      (∀ others, others.take (i + 1) = items.take (i + 1) →
        (fold hook headers others).result = .error e) ∧
      ∀ other, (∀ j ≤ i, SameAt hook other headers items j) →
        fold other headers items = fold hook headers items := by
  refine ⟨fun table => fold_eq_ok_iff, fun e => fold_eq_error_iff, fun i e h => ⟨?_, ?_⟩⟩
  · intro others hsame
    exact fold_eq_error_iff.mpr ⟨i, h.congr hsame⟩
  · intro other hsame
    exact fold_congr h hsame

/-- A hook that panics on all but texts, and a batch whose second item is null and whose third is no
text: the panic ends the fold, here and wherever a batch begins so, and so it does with a hook that
differs from this one on numbers alone. -/
theorem fold_firstFailure_panic :
    let hook : Accumulate := fun _ d =>
      match d.string? with
      | some s => modify fun table => table.insert s d
      | none => throw (.panicked ⟨some "boom"⟩)
    let other : Accumulate := fun headers d => if d.number?.isSome then pure () else hook headers d
    let items := [Text.bytes "\"a\"", Text.bytes "null", [0xFF]]
    let others := [Text.bytes "\"a\"", Text.bytes "null", Text.bytes "7", Text.bytes "\"b\""]
    let e : CallError := .hook .accumulate "hook panicked: boom"
    FirstStop hook .empty items 1 e ∧ (fold hook .empty items).result = .error e ∧
      others.take 2 = items.take 2 ∧ (fold hook .empty others).result = .error e ∧
      (∀ j ≤ 1, SameAt hook other .empty others j) ∧
      fold other .empty others = fold hook .empty others := by
  intro hook other items others e
  have hshared : others.take 2 = items.take 2 := rfl
  have hfirst : FirstStop hook .empty items 1 e := by
    let d := (decodeItem 1 (Text.bytes "null")).toOption.getD .null
    have hd : ItemHolds (Text.bytes "null") d :=
      decodeItem_eq_ok_iff.mp (eq_ok_getD (by decide +kernel))
    let table := (fold hook .empty (items.take 1)).result.toOption.getD .empty
    have hf : Folded hook .empty (items.take 1) table :=
      fold_eq_ok_iff.mp (eq_ok_getD (by decide +kernel))
    have hnone : d.string? = none := by decide +kernel
    have hrun : (hook.run .empty d table).1 = .error (.panicked ⟨some "boom"⟩) := by
      simp only [Accumulate.run, hook, hnone]
      rfl
    exact firstStop_of_folded (.panicked rfl hd hf hrun) hf
  have hsame : ∀ j ≤ 1, SameAt hook other .empty others j := by
    have hnumber : ∀ bytes ∈ others.take 2, ∀ d ∈ (decodeItem 0 bytes).toOption,
        d.number?.isSome = false := by decide +kernel
    intro j hj bytes d table hitem hd _
    have hmem : bytes ∈ others.take 2 := by
      rw [← List.getElem?_take_of_lt (Nat.lt_succ_of_le hj)] at hitem
      exact List.mem_of_getElem? hitem
    have hdecoded : decodeItem 0 bytes = .ok d := decodeItem_eq_ok_iff.mpr hd
    have hnone := hnumber bytes hmem d (toOption_eq_some_iff.mpr hdecoded)
    simp only [Accumulate.run, other, hnone, Bool.false_eq_true, if_false]
  have hitems := fold_firstFailure hook .empty items
  have hothers := fold_firstFailure hook .empty others
  have herror := (hitems.2.2 1 e hfirst).1 others hshared
  exact ⟨hfirst, (hitems.2.1 e).mpr ⟨1, hfirst⟩, hshared, herror, hsame,
    (hothers.2.2 1 e (hfirst.congr hshared)).2 other hsame⟩

end WindowGateway
