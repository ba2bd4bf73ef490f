import WindowGateway.Proofs.Call.Containment
import WindowGateway.Traffic

/-! The stages of a call, taken one at a time. A call comes to the answer that it has when it is run
at once: what its stages have left is always what the whole pipeline computes for the part of the
batch that is done. Every stage leaves fewer to come. -/

namespace WindowGateway

open Wire (decodeCollection)

/-! ### A call -/

/-- The stages so far have left what the call has at this point when it is run alone: the folded
table is the fold of the first items of the batch, and the rest are still to come. -/
inductive OnCourse (request : Envelope) : {h : Handler} → Progress h → Prop
  | received {h : Handler} : OnCourse request (.received : Progress h)
  | validated {h : Handler} (ha : request.headers.Announce h.framing) :
    OnCourse request (.validated : Progress h)
  | folding {a : Aggregator} {before rest : List (List UInt8)} {table : RecordTable}
      (ha : request.headers.Announce .batch)
      (hd : decodeCollection request.payload = .ok (before ++ rest))
      (hf : (fold a.accumulate request.headers before).result = .ok table) :
    OnCourse request (.folding before.length table rest : Progress (.aggregator a))
  | released {a : Aggregator} {emitted : RecordTable} (ha : request.headers.Announce .batch)
      (he : (a.aggregate request.headers request.payload).result = .ok emitted) :
    OnCourse request (.released emitted : Progress (.aggregator a))
  | decoded {map : MapDocument} {d : Json.Document} (ha : request.headers.Announce .document)
      (hi : decodeItem 0 request.payload = .ok d) :
    OnCourse request (.decoded d : Progress (.mapper map))
  | mapped {map : MapDocument} {d mapped : Json.Document} (ha : request.headers.Announce .document)
      (hi : decodeItem 0 request.payload = .ok d) (hm : map request.headers d = .ok mapped) :
    OnCourse request (.mapped mapped : Progress (.mapper map))

/-- A turn that keeps a call on course, or ends it with the answer that it has alone. -/
def Turn.Right {h : Handler} (request : Envelope) : Turn h → Prop
  | .goesOn p => OnCourse request p
  | .ends answer => answer = (h.answer request).result

section Call

variable {h : Handler} {request : Envelope}

theorem right_ofExcept {α : Type} {x : Except CallError α} {next : α → Progress h}
    (hok : ∀ a, x = .ok a → OnCourse request (next a))
    (herror : ∀ e, x = .error e → (h.answer request).result = .error (.error e)) :
    (Turn.ofExcept x next).Right request := by
  cases x with
  | ok a => exact hok a rfl
  | error e => exact (herror e rfl).symm

/-! ### Its stages -/

section Fold

variable {hook : Accumulate} {headers : Headers} {before : List (List UInt8)}

theorem fold_concat {table : RecordTable} (hf : (fold hook headers before).result = .ok table)
    (bytes : List UInt8) :
    (fold hook headers (before ++ [bytes])).result =
      foldItem hook headers before.length table bytes := by
  rw [fold] at hf ⊢
  rw [foldFrom_append, hf]
  show (foldFrom hook headers (0 + before.length) table [bytes]).result = _
  rw [Nat.zero_add, foldFrom_cons_result]
  cases foldItem hook headers before.length table bytes <;> rfl

theorem fold_append_error {e : CallError} (he : (fold hook headers before).result = .error e)
    (after : List (List UInt8)) : (fold hook headers (before ++ after)).result = .error e := by
  rw [fold] at he ⊢
  rw [foldFrom_append, he]
  rfl

end Fold

theorem right_received : (advance request (.received : Progress h)).Right request := by
  by_cases ha : request.headers.Announce h.framing
  · obtain ⟨m, hm⟩ := checkContentType_of_announce ha
    refine right_ofExcept (fun _ _ => .validated ha) fun e he => ?_
    rw [hm] at he
    cases he
  · have hrejected := checkContentType_of_not_announce ha
    refine right_ofExcept (fun m hm => ?_) fun e he => ?_
    · rw [hrejected] at hm
      cases hm
    · rw [hrejected] at he
      cases he
      exact answer_rejected ha

section Batch

variable {a : Aggregator} {table : RecordTable}

theorem right_batch (ha : request.headers.Announce .batch) :
    (advance request (.validated : Progress (.aggregator a))).Right request := by
  cases hd : decodeCollection request.payload with
  | error error =>
    have hanswer := answer_of_aggregate_error (a := a) ha (aggregate_undecodable hd)
    rw [advance, hd]
    exact hanswer.symm
  | ok items =>
    rw [advance, hd]
    exact @OnCourse.folding request a [] items .empty ha hd rfl

theorem right_item {before rest : List (List UInt8)} {bytes : List UInt8}
    (ha : request.headers.Announce .batch)
    (hd : decodeCollection request.payload = .ok (before ++ bytes :: rest))
    (hf : (fold a.accumulate request.headers before).result = .ok table) :
    (advance request
      (.folding before.length table (bytes :: rest) : Progress (.aggregator a))).Right request := by
  have hconcat := fold_concat hf bytes
  rw [List.append_cons] at hd
  refine right_ofExcept (fun next hnext => ?_) fun e he => ?_
  · have hcourse := @OnCourse.folding request a _ rest next ha hd (hconcat.trans hnext)
    rwa [List.length_append] at hcourse
  · have hfold := fold_append_error (hconcat.trans he) rest
    exact answer_of_aggregate_error ha (aggregate_unfolded hd hfold)

theorem right_folded {items : List (List UInt8)} (ha : request.headers.Announce .batch)
    (hd : decodeCollection request.payload = .ok items)
    (hf : (fold a.accumulate request.headers items).result = .ok table) :
    (advance request (.folding items.length table [] : Progress (.aggregator a))).Right
      request := by
  have hstage := aggregate_folded hd hf
  refine right_ofExcept (fun emitted he => .released ha (hstage.trans he)) fun e he => ?_
  exact answer_of_aggregate_error ha (hstage.trans he)

theorem right_released {emitted : RecordTable} (ha : request.headers.Announce .batch)
    (he : (a.aggregate request.headers request.payload).result = .ok emitted) :
    (advance request (.released emitted : Progress (.aggregator a))).Right request := by
  rw [advance]
  cases hh : a.finalize.replyHeaders .empty with
  | error panic => exact (answer_of_panic ha he hh).symm
  | ok added => exact (answer_of_aggregate_ok ha he hh).symm

end Batch

section Document

variable {map : MapDocument} {d : Json.Document}

theorem right_document (ha : request.headers.Announce .document) :
    (advance request (.validated : Progress (.mapper map))).Right request := by
  refine right_ofExcept (fun d hd => .decoded ha hd) fun e he => ?_
  exact (answer_accepted (h := .mapper map) ha).trans (mapReply_undecodable he)

theorem right_decoded (ha : request.headers.Announce .document)
    (hi : decodeItem 0 request.payload = .ok d) :
    (advance request (.decoded d : Progress (.mapper map))).Right request := by
  have hanswer := (answer_accepted (h := .mapper map) ha).trans (mapReply_decoded map hi)
  rw [advance]
  cases hm : map request.headers d with
  | error fault =>
    rw [hm] at hanswer
    exact hanswer.symm
  | ok mapped => exact .mapped ha hi hm

theorem right_mapped {mapped : Json.Document} (ha : request.headers.Announce .document)
    (hi : decodeItem 0 request.payload = .ok d) (hm : map request.headers d = .ok mapped) :
    (advance request (.mapped mapped : Progress (.mapper map))).Right request := by
  have hanswer := (answer_accepted (h := .mapper map) ha).trans (mapReply_decoded map hi)
  rw [hm] at hanswer
  exact hanswer.symm

end Document

/-- Every stage does its part of the answer: it keeps the call on course, or ends it rightly. -/
theorem advance_right {p : Progress h} (hp : OnCourse request p) :
    (advance request p).Right request := by
  cases hp with
  | received => exact right_received
  | validated ha =>
    cases h with
    | aggregator a => exact right_batch ha
    | mapper map => exact right_document ha
  | @folding a before rest table ha hd hf =>
    cases rest with
    | nil =>
      rw [List.append_nil] at hd
      exact right_folded ha hd hf
    | cons bytes rest => exact right_item ha hd hf
  | released ha he => exact right_released ha he
  | decoded ha hi => exact right_decoded ha hi
  | mapped ha hi hm => exact right_mapped ha hi hm

end Call

/-! ### How many stages are left -/

section Stages

/-- The number of items of a batch. -/
def batchSize (request : Envelope) : Nat :=
  ((decodeCollection request.payload).toOption.getD []).length

/-- How many stages a call has left at most. -/
def Progress.left (request : Envelope) : {h : Handler} → Progress h → Nat
  | .aggregator _, .received => batchSize request + 4
  | .aggregator _, .validated => batchSize request + 3
  | .aggregator _, .folding _ _ rest => rest.length + 2
  | .aggregator _, .released _ => 1
  | .mapper _, .received => 4
  | .mapper _, .validated => 3
  | .mapper _, .decoded _ => 2
  | .mapper _, .mapped _ => 1

/-- How many stages a call has at most. -/
def stages (h : Handler) (request : Envelope) : Nat := (Progress.received : Progress h).left request

variable {h : Handler} {request : Envelope}

theorem left_pos (request : Envelope) (p : Progress h) : 0 < p.left request := by
  cases h <;> cases p <;> exact Nat.succ_pos _

theorem goesOn_of_ofExcept {α : Type} {x : Except CallError α} {next : α → Progress h}
    {p : Progress h} (hgo : Turn.ofExcept x next = .goesOn p) : ∃ a, x = .ok a ∧ next a = p := by
  cases x with
  | error e => cases hgo
  | ok a => exact ⟨a, rfl, Turn.goesOn.inj hgo⟩

/-- A stage that does not end the call leaves it fewer stages. -/
theorem left_of_goesOn {p next : Progress h} (hgo : advance request p = .goesOn next) :
    next.left request < p.left request := by
  cases p with
  | received =>
    obtain ⟨_, _, rfl⟩ := goesOn_of_ofExcept hgo
    cases h <;> exact Nat.lt_succ_self _
  | validated =>
    cases h with
    | aggregator a =>
      obtain ⟨items, hitems, rfl⟩ := goesOn_of_ofExcept hgo
      have hd : decodeCollection request.payload = .ok items := mapError_eq_ok_iff.mp hitems
      simp only [Progress.left, batchSize, hd, Except.toOption, Option.getD_some]
      omega
    | mapper map =>
      obtain ⟨_, _, rfl⟩ := goesOn_of_ofExcept hgo
      exact Nat.lt_succ_self _
  | folding done table rest =>
    cases rest with
    | nil =>
      obtain ⟨_, _, rfl⟩ := goesOn_of_ofExcept hgo
      exact Nat.lt_succ_self _
    | cons bytes rest =>
      obtain ⟨_, _, rfl⟩ := goesOn_of_ofExcept hgo
      exact Nat.lt_succ_self _
  | @released a emitted =>
    rw [advance] at hgo
    cases hh : a.finalize.replyHeaders .empty with
    | error panic => simp [hh] at hgo
    | ok added => simp [hh] at hgo
  | decoded d =>
    obtain ⟨_, _, rfl⟩ := goesOn_of_ofExcept hgo
    exact Nat.lt_succ_self _
  | mapped d => cases hgo

/-- A call on course has no more stages left than a call has at most. -/
theorem left_le_stages {p : Progress h} (hp : OnCourse request p) :
    p.left request ≤ stages h request := by
  cases hp with
  | received => exact Nat.le_refl _
  | validated => cases h <;> exact Nat.le_succ _
  | @folding a before rest table ha hd hf =>
    simp only [stages, Progress.left, batchSize, hd, Except.toOption, Option.getD_some,
      List.length_append]
    omega
  | released =>
    rw [stages, Progress.left, Progress.left]
    omega
  | decoded =>
    show 2 ≤ 4
    decide
  | mapped =>
    show 1 ≤ 4
    decide

end Stages

end WindowGateway
