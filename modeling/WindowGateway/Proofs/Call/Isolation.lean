import Mathlib.Data.List.Induction
import WindowGateway.Proofs.Call.Stages

/-! Calls in flight do not meet. Whatever schedule takes them further, each is answered at most
once, and as it is when it is run alone. Which calls of others come between its stages, and how
these end, has no say in it. -/

namespace WindowGateway

/-! ### Traffic -/

/-- The request that an act accepts as the call `n`. -/
def Act.accepts? (n : Nat) : Act → Option Envelope
  | accept call request => if call = n then some request else none
  | advance _ => none

/-- The request of the call `n`: the first that is accepted as such. -/
def request? (acts : List Act) (n : Nat) : Option Envelope := acts.findSome? (Act.accepts? n)

/-- Whether an act takes the call `n` further. -/
def Act.advances (n : Nat) : Act → Bool
  | accept _ _ => false
  | advance call => call == n

section Traffic

variable {h : Handler} {t next : Traffic h} {act : Act} {acts : List Act} {n : Nat}

namespace Traffic

@[simp] theorem slot_set_self (t : Traffic h) (n : Nat) (s : Slot h) : (t.set n s).slot n = s :=
  if_pos rfl

theorem slot_set_ne (t : Traffic h) {call : Nat} (hne : n ≠ call) (s : Slot h) :
    (t.set call s).slot n = t.slot n :=
  if_neg hne

@[simp] theorem slot_send (t : Traffic h) (call : Nat) (answer : Answer) :
    (t.send call answer).slot = t.slot := rfl

@[simp] theorem answersTo_set (t : Traffic h) (call : Nat) (s : Slot h) :
    (t.set call s).answersTo n = t.answersTo n := rfl

@[simp] theorem answersTo_send_self (t : Traffic h) (n : Nat) (answer : Answer) :
    (t.send n answer).answersTo n = t.answersTo n ++ [answer] := by
  simp [send, answersTo]

theorem answersTo_send_ne (t : Traffic h) {call : Nat} (hne : n ≠ call) (answer : Answer) :
    (t.send call answer).answersTo n = t.answersTo n := by
  simp [send, answersTo, Ne.symm hne]

theorem run_concat (h : Handler) (acts : List Act) (act : Act) :
    run h (acts ++ [act]) = (run h acts).step act := by
  rw [run, List.foldl_append]
  rfl

end Traffic

/-- The steps that a gateway can take. -/
inductive Stepped (t : Traffic h) : Act → Traffic h → Prop
  | accepted {call : Nat} {request : Envelope} (free : t.slot call = .free) :
    Stepped t (.accept call request) (t.set call (.inFlight request .received))
  | moved {call : Nat} {request : Envelope} {p q : Progress h}
      (slot : t.slot call = .inFlight request p) (turn : advance request p = .goesOn q) :
    Stepped t (.advance call) (t.set call (.inFlight request q))
  | ended {call : Nat} {request : Envelope} {p : Progress h} {answer : Answer}
      (slot : t.slot call = .inFlight request p) (turn : advance request p = .ends answer) :
    Stepped t (.advance call) ((t.set call .answered).send call answer)
  | refused {call : Nat} {request : Envelope} (taken : t.slot call ≠ .free) :
    Stepped t (.accept call request) t
  | vain {call : Nat} (grounded : ∀ request p, t.slot call ≠ .inFlight request p) :
    Stepped t (.advance call) t

theorem stepped_step (t : Traffic h) (act : Act) : Stepped t act (t.step act) := by
  cases act with
  | accept call request =>
    rw [Traffic.step]
    split
    · next hslot => exact .accepted hslot
    · next hslot => exact .refused hslot
  | advance call =>
    rw [Traffic.step]
    split
    · next request p hslot =>
      cases hturn : advance request p with
      | goesOn q => exact .moved hslot hturn
      | ends answer => exact .ended hslot hturn
    · next hslot => exact .vain hslot

/-- A step of one call leaves all others as they are. -/
theorem Stepped.other (hstep : Stepped t act next) (hne : n ≠ act.call) :
    next.slot n = t.slot n ∧ next.answersTo n = t.answersTo n := by
  cases hstep with
  | accepted | moved => exact ⟨t.slot_set_ne hne _, rfl⟩
  | ended => exact ⟨t.slot_set_ne hne _, Traffic.answersTo_send_ne _ hne _⟩
  | refused | vain => exact ⟨rfl, rfl⟩

/-- What a call has come to, as far as its slot and the answers to it tell: a call in flight is on
course and not yet answered, and a call that is done was answered once, as it is when run alone. -/
def Slot.Faithful (request : Option Envelope) (answers : List Answer) : Slot h → Prop
  | .free => request = none ∧ answers = []
  | .inFlight received p => request = some received ∧ OnCourse received p ∧ answers = []
  | .answered => ∃ received, request = some received ∧ answers = [(h.answer received).result]

theorem Slot.Faithful.taken {s : Slot h} {request : Option Envelope} {answers : List Answer}
    (hs : s.Faithful request answers) (htaken : s ≠ .free) :
    ∃ received, request = some received := by
  cases s with
  | free => exact absurd rfl htaken
  | inFlight received p => exact ⟨received, hs.1⟩
  | answered =>
    obtain ⟨received, hrequest, _⟩ := hs
    exact ⟨received, hrequest⟩

theorem request?_concat (acts : List Act) (act : Act) (n : Nat) :
    request? (acts ++ [act]) n = (request? acts n).or (act.accepts? n) := by
  rw [request?, List.findSome?_append, List.findSome?_singleton]
  rfl

theorem accepts?_of_ne (hne : n ≠ act.call) : act.accepts? n = none := by
  cases act with
  | accept call request => exact if_neg (Ne.symm hne)
  | advance call => rfl

/-- One step keeps what the slots and the answers tell of every call. -/
theorem Stepped.faithful (hstep : Stepped t act next)
    (hn : (t.slot n).Faithful (request? acts n) (t.answersTo n)) :
    (next.slot n).Faithful (request? (acts ++ [act]) n) (next.answersTo n) := by
  rw [request?_concat]
  by_cases hne : n = act.call
  · subst hne
    cases hstep with
    | @accepted call request free =>
      rw [Act.call, free] at hn
      obtain ⟨hrequest, hanswers⟩ := hn
      rw [Act.call, hrequest, Traffic.slot_set_self, Traffic.answersTo_set]
      exact ⟨if_pos rfl, .received, hanswers⟩
    | moved slot turn =>
      rw [Act.call, slot] at hn
      obtain ⟨hrequest, hcourse, hanswers⟩ := hn
      have hright := advance_right hcourse
      rw [turn] at hright
      rw [Act.call, hrequest, Traffic.slot_set_self, Traffic.answersTo_set]
      exact ⟨rfl, hright, hanswers⟩
    | ended slot turn =>
      rw [Act.call, slot] at hn
      obtain ⟨hrequest, hcourse, hanswers⟩ := hn
      have hright := advance_right hcourse
      rw [turn] at hright
      rw [Act.call, hrequest, Traffic.slot_send, Traffic.slot_set_self, Traffic.answersTo_send_self,
        Traffic.answersTo_set, hanswers, hright]
      exact ⟨_, rfl, rfl⟩
    | @refused call request taken =>
      rw [Act.call] at hn ⊢
      obtain ⟨received, hrequest⟩ := hn.taken taken
      rw [hrequest] at hn ⊢
      exact hn
    | vain =>
      rw [show Act.accepts? _ (Act.advance _) = none from rfl, Option.or_none]
      exact hn
  · obtain ⟨hslot, hanswers⟩ := hstep.other hne
    rw [accepts?_of_ne hne, Option.or_none, hslot, hanswers]
    exact hn

/-- Whatever the schedule, every call is where it would be alone. -/
theorem run_faithful (h : Handler) (acts : List Act) (n : Nat) :
    ((Traffic.run h acts).slot n).Faithful (request? acts n)
      ((Traffic.run h acts).answersTo n) := by
  induction acts using List.reverseRecOn with
  | nil => exact ⟨rfl, rfl⟩
  | append_singleton acts act ih =>
    rw [Traffic.run_concat]
    exact (stepped_step _ act).faithful ih

/-! ### Schedules of one call -/

/-- Two gateways with a call at the same point come to the same point by an act of this call. -/
theorem step_congr {u : Traffic h} (hslot : t.slot act.call = u.slot act.call)
    (hanswers : t.answersTo act.call = u.answersTo act.call) :
    (t.step act).slot act.call = (u.step act).slot act.call ∧
      (t.step act).answersTo act.call = (u.step act).answersTo act.call := by
  cases act with
  | accept call request =>
    rw [Act.call] at *
    rw [Traffic.step, Traffic.step, ← hslot]
    cases t.slot call with
    | free => exact ⟨by rw [Traffic.slot_set_self, Traffic.slot_set_self], hanswers⟩
    | inFlight request p => exact ⟨hslot, hanswers⟩
    | answered => exact ⟨hslot, hanswers⟩
  | advance call =>
    rw [Act.call] at *
    rw [Traffic.step, Traffic.step, ← hslot]
    cases t.slot call with
    | free => exact ⟨hslot, hanswers⟩
    | inFlight request p =>
      cases hturn : advance request p with
      | goesOn q =>
        simp only [hturn, Traffic.slot_set_self, Traffic.answersTo_set, hanswers, and_self]
      | ends answer =>
        simp only [hturn, Traffic.slot_send, Traffic.slot_set_self, Traffic.answersTo_send_self,
          Traffic.answersTo_set, hanswers, and_self]
    | answered => exact ⟨hslot, hanswers⟩

/-- What a call comes to is a matter of its own acts. -/
theorem run_filter (h : Handler) (acts : List Act) (n : Nat) :
    (Traffic.run h acts).slot n = (Traffic.run h (acts.filter (·.call = n))).slot n ∧
      (Traffic.run h acts).answersTo n =
        (Traffic.run h (acts.filter (·.call = n))).answersTo n := by
  induction acts using List.reverseRecOn with
  | nil => exact ⟨rfl, rfl⟩
  | append_singleton acts act ih =>
    obtain ⟨hslot, hanswers⟩ := ih
    rw [Traffic.run_concat, List.filter_append, List.filter_cons, List.filter_nil]
    by_cases hn : act.call = n
    · subst hn
      rw [if_pos (decide_eq_true rfl), Traffic.run_concat]
      exact step_congr hslot hanswers
    · obtain ⟨hslot', hanswers'⟩ := (stepped_step (Traffic.run h acts) act).other (Ne.symm hn)
      rw [if_neg (by simpa using hn), List.append_nil, hslot', hanswers']
      exact ⟨hslot, hanswers⟩

/-! ### Calls that go on -/

theorem Stepped.answered (hstep : Stepped t act next) (hn : t.slot n = .answered) :
    next.slot n = .answered := by
  by_cases hne : n = act.call
  · subst hne
    cases hstep with
    | accepted free => exact absurd (free.symm.trans hn) (by simp)
    | moved slot => exact absurd (slot.symm.trans hn) (by simp)
    | ended slot => exact absurd (slot.symm.trans hn) (by simp)
    | refused | vain => exact hn
  · rw [(hstep.other hne).1]
    exact hn

theorem foldl_answered (more : List Act) (hn : t.slot n = .answered) :
    (more.foldl Traffic.step t).slot n = .answered := by
  induction more generalizing t with
  | nil => exact hn
  | cons act more ih => exact ih ((stepped_step t act).answered hn)

/-- An act that does not take a call in flight further leaves it where it is. -/
theorem Stepped.waits (hstep : Stepped t act next) (hact : act.advances n = false)
    {request : Envelope} {p : Progress h} (hn : t.slot n = .inFlight request p) :
    next.slot n = .inFlight request p := by
  by_cases hne : n = act.call
  · subst hne
    cases hstep with
    | accepted free => exact absurd (free.symm.trans hn) (by simp)
    | moved | ended => simp [Act.advances, Act.call] at hact
    | refused | vain => exact hn
  · rw [(hstep.other hne).1]
    exact hn

/-- A call in flight is answered when it has been taken as far as it has stages left. -/
theorem answered_of_advances {request : Envelope} {p : Progress h} {more : List Act}
    (hn : t.slot n = .inFlight request p)
    (hleft : p.left request ≤ more.countP (Act.advances n)) :
    (more.foldl Traffic.step t).slot n = .answered := by
  induction more generalizing t p with
  | nil => exact absurd (left_pos request p) (Nat.not_lt.mpr hleft)
  | cons act more ih =>
    have hstep := stepped_step t act
    rw [List.foldl_cons]
    cases hact : act.advances n with
    | false =>
      rw [List.countP_cons_of_neg (by simp [hact])] at hleft
      exact ih (hstep.waits hact hn) hleft
    | true =>
      rw [List.countP_cons_of_pos hact] at hleft
      generalize t.step act = next at hstep
      cases hstep with
      | accepted | refused => cases hact
      | @moved call request' p' q slot turn =>
        obtain rfl : call = n := beq_iff_eq.mp hact
        obtain ⟨rfl, rfl⟩ := Slot.inFlight.inj (slot.symm.trans hn)
        have hless := left_of_goesOn turn
        exact ih (Traffic.slot_set_self t call _) (by omega)
      | @ended call =>
        obtain rfl : call = n := beq_iff_eq.mp hact
        exact foldl_answered more (Traffic.slot_set_self t call _)
      | @vain call grounded =>
        obtain rfl : call = n := beq_iff_eq.mp hact
        exact absurd hn (grounded _ _)

end Traffic

/-! ### Isolation -/

/-- What a schedule promises of a call: at most one answer, the one that its request has when it is
run alone; the same whatever calls of others there are; and sure to come if the call is taken far
enough. -/
structure Isolated (h : Handler) (acts : List Act) (n : Nat) : Prop where
  alone : (Traffic.run h acts).answersTo n = [] ∨ ∃ request, request? acts n = some request ∧
    (Traffic.run h acts).answersTo n = [(h.answer request).result]
  apart : (Traffic.run h acts).answersTo n =
    (Traffic.run h (acts.filter (·.call = n))).answersTo n
  answered : ∀ request more, request? acts n = some request →
    stages h request ≤ more.countP (Act.advances n) →
    (Traffic.run h (acts ++ more)).answersTo n = [(h.answer request).result]

section Isolation

variable {h : Handler} {acts : List Act} {n : Nat}

theorem request?_append {request : Envelope} (hr : request? acts n = some request)
    (more : List Act) : request? (acts ++ more) n = some request := by
  rw [request?] at hr ⊢
  rw [List.findSome?_append, hr]
  rfl

/-- An accepted call is in flight, on course, or answered. -/
theorem answered_run {request : Envelope} {more : List Act} (hr : request? acts n = some request)
    (hmore : stages h request ≤ more.countP (Act.advances n)) :
    (Traffic.run h (acts ++ more)).slot n = .answered := by
  have hfaithful := run_faithful h acts n
  rw [hr] at hfaithful
  rw [Traffic.run, List.foldl_append]
  show (more.foldl Traffic.step (Traffic.run h acts)).slot n = .answered
  cases hslot : (Traffic.run h acts).slot n with
  | free =>
    rw [hslot] at hfaithful
    exact absurd hfaithful.1 (by simp)
  | inFlight received p =>
    rw [hslot] at hfaithful
    obtain ⟨hsome, hcourse, _⟩ := hfaithful
    obtain rfl : request = received := Option.some.inj hsome
    exact answered_of_advances hslot (Nat.le_trans (left_le_stages hcourse) hmore)
  | answered => exact foldl_answered more hslot

theorem isolated_run (h : Handler) (acts : List Act) (n : Nat) : Isolated h acts n where
  alone := by
    have hfaithful := run_faithful h acts n
    cases hslot : (Traffic.run h acts).slot n with
    | free =>
      rw [hslot] at hfaithful
      exact .inl hfaithful.2
    | inFlight received p =>
      rw [hslot] at hfaithful
      exact .inl hfaithful.2.2
    | answered =>
      rw [hslot] at hfaithful
      exact .inr hfaithful
  apart := (run_filter h acts n).2
  answered request more hr hmore := by
    have hfaithful := run_faithful h (acts ++ more) n
    rw [answered_run hr hmore, request?_append hr] at hfaithful
    obtain ⟨received, hsome, hanswers⟩ := hfaithful
    obtain rfl : request = received := Option.some.inj hsome
    exact hanswers

/-- Two batches of scores, taken further in turns. The second has an item that is no document, and
fails before the first is done. -/
example :
    let team := Text.bytes "\x7b\"team\":\"a\",\"score\":1\x7d"
    let request (items : List (List UInt8)) : Envelope :=
      ⟨OrderedMap.empty.insert Headers.contentType "multipart/json", Wire.encodeCollection items⟩
    let acts := [.accept 0 (request [team, team]), .accept 1 (request [team, []])] ++
      (List.replicate 6 [.advance 1, .advance 0]).flatten
    (Traffic.run (.aggregator { accumulate := Builtin.teamScore.accumulate }) acts).sent.map
      (fun (n, answer) => (n, answer.toOption.isSome)) = [(1, false), (0, true)] := by
  decide +kernel

end Isolation

end WindowGateway
