import Mathlib.Data.List.Chain
import WindowGateway.Builtin.Uppercase
import WindowGateway.Proofs.Call.Chronicle

/-! The phases of a call, as its log tells them. The documented machine comes to `failed` only after
`decoded` or `folded`. A call keeps to it just if its payload is decoded: one that is not decoded
fails the call before the phase `decoded` is told. -/

namespace WindowGateway

open Wire (decodeCollection)

/-! ### The documented machine -/

namespace Phase

/-- A step that the documentation of the phases allows. -/
structure Step (p q : Phase) : Prop where
  rejected : q = .rejected → p = .received
  failed : q = .failed → p = .decoded ∨ p = .folded
  goesOn : p ≠ .responded ∧ p ≠ .rejected ∧ p ≠ .failed

instance : DecidableRel Step := fun p q =>
  decidable_of_iff
    ((q = .rejected → p = .received) ∧ (q = .failed → p = .decoded ∨ p = .folded) ∧
      p ≠ .responded ∧ p ≠ .rejected ∧ p ≠ .failed)
    ⟨fun ⟨hr, hf, hg⟩ => ⟨hr, hf, hg⟩, fun ⟨hr, hf, hg⟩ => ⟨hr, hf, hg⟩⟩

/-- Paths of the documented machine. -/
structure Path (phases : List Phase) : Prop where
  starts : phases.head? = some .received
  steps : phases.IsChain Step

instance : DecidablePred Path := fun phases =>
  decidable_of_iff (phases.head? = some .received ∧ phases.IsChain Step)
    ⟨fun ⟨hs, hc⟩ => ⟨hs, hc⟩, fun ⟨hs, hc⟩ => ⟨hs, hc⟩⟩

/-- The phases to which a call can go on from a phase. -/
def successors : Phase → List Phase
  | received => [validated, rejected]
  | validated => [decoded, failed]
  | decoded => [folded, encoded, failed]
  | folded => [finalized, failed]
  | finalized => [encoded]
  | encoded => [responded]
  | responded | rejected | failed => []

/-- The phases of calls whose payload is not looked at, or decoded. -/
def courses : List (List Phase) :=
  [[received, rejected],
    [received, validated, decoded, failed],
    [received, validated, decoded, folded, failed],
    [received, validated, decoded, folded, finalized, encoded],
    [received, validated, decoded, folded, finalized, encoded, responded],
    [received, validated, decoded, encoded, responded]]

theorem path_of_mem_courses : ∀ phases ∈ courses, Path phases := by decide

theorem successors_of_mem_courses :
    ∀ phases ∈ courses, phases.IsChain fun p q => q ∈ p.successors := by decide

end Phase

/-! ### The phases of a log -/

/-- The phases that a log tells at the level debug and above. -/
def phasesOf (events : List Event) : List Phase :=
  (events.filter fun e => Level.debug.rank ≤ e.level.rank).filterMap Event.phase?

theorem phasesOf_append (first second : List Event) :
    phasesOf (first ++ second) = phasesOf first ++ phasesOf second := by
  simp only [phasesOf, List.filter_append, List.filterMap_append]

theorem phasesOf_items (tables : List RecordTable) : phasesOf (itemEvents tables) = [] := by
  have hnone : (itemEvents tables).filter (fun e => Level.debug.rank ≤ e.level.rank) = [] := by
    refine List.filter_eq_nil_iff.mpr fun e he => ?_
    rw [level_of_mem_itemEvents he]
    decide
  rw [phasesOf, hnone]
  rfl

theorem phasesOf_around_items (start rest : List Event) (tables : List RecordTable) :
    phasesOf (start ++ itemEvents tables ++ rest) = phasesOf start ++ phasesOf rest := by
  rw [phasesOf_append, phasesOf_append, phasesOf_items, List.append_nil]

/-- The payload of a call has the content type that the handler takes, and is not decoded. -/
def Undecodable : Handler → Envelope → Prop
  | .aggregator _, request =>
    request.headers.Announce .batch ∧ ∃ error, decodeCollection request.payload = .error error
  | .mapper _, request =>
    request.headers.Announce .document ∧ ∃ e, decodeItem 0 request.payload = .error e

section Phases

variable {h : Handler} {request : Envelope} {call : Logged Interruption Envelope}

theorem phases_of_undecodable (hu : Undecodable h request) :
    phasesOf (h.answer request).events = [.received, .validated, .failed] := by
  cases h with
  | aggregator a =>
    obtain ⟨ha, error, hd⟩ := hu
    rw [answer_eq_of_announce (h := .aggregator a) ha, Handler.reply,
      reply_eq_of_aggregate_error (aggregate_eq_undecodable hd)]
    rfl
  | mapper map =>
    obtain ⟨ha, e, hi⟩ := hu
    rw [answer_eq_of_announce (h := .mapper map) ha, Handler.reply, mapReply_eq_unread hi]
    rfl

theorem phases_mem_courses (hc : Chronicle h request call) (hu : ¬Undecodable h request) :
    phasesOf call.events ∈ Phase.courses := by
  cases hc with
  | rejected =>
    show [.received, .rejected] ∈ Phase.courses
    decide
  | undecodable ha hd => exact absurd ⟨ha, _, hd⟩ hu
  | unfolded =>
    rw [phasesOf_around_items]
    show [.received, .validated, .decoded, .failed] ∈ Phase.courses
    decide
  | unreleased =>
    rw [phasesOf_around_items]
    show [.received, .validated, .decoded, .folded, .failed] ∈ Phase.courses
    decide
  | aborted =>
    rw [phasesOf_around_items]
    show [.received, .validated, .decoded, .folded, .finalized, .encoded] ∈ Phase.courses
    decide
  | replied =>
    rw [phasesOf_around_items]
    show [.received, .validated, .decoded, .folded, .finalized, .encoded, .responded] ∈
      Phase.courses
    decide
  | unread ha hi => exact absurd ⟨ha, _, hi⟩ hu
  | unmapped =>
    show [.received, .validated, .decoded, .failed] ∈ Phase.courses
    decide
  | mapped =>
    show [.received, .validated, .decoded, .encoded, .responded] ∈ Phase.courses
    decide

end Phases

/-- A call keeps to the documented machine just if its payload is decoded or not looked at. One
whose payload is not decoded goes from `validated` to `failed`. -/
theorem phases_path_iff (h : Handler) (request : Envelope) :
    let phases := phasesOf (h.answer request).events
    (Phase.Path phases ↔ ¬Undecodable h request) ∧
      (Undecodable h request → phases = [.received, .validated, .failed]) ∧
      phases.head? = some .received ∧ phases.IsChain fun p q => q ∈ p.successors := by
  intro phases
  by_cases hu : Undecodable h request
  · have hphases : phases = [.received, .validated, .failed] := phases_of_undecodable hu
    rw [hphases]
    exact ⟨iff_of_false (by decide) (not_not_intro hu), fun _ => rfl, rfl, by decide⟩
  · have hmem : phases ∈ Phase.courses := phases_mem_courses (chronicle_answer h request) hu
    have hpath := Phase.path_of_mem_courses _ hmem
    exact ⟨iff_of_true hpath hu, fun h => absurd h hu, hpath.starts,
      Phase.successors_of_mem_courses _ hmem⟩

/-- A document that is cut short, sent to a mapper; and a batch that is, sent to an aggregator. -/
theorem not_path_of_truncated :
    let mapping : Envelope :=
      ⟨OrderedMap.empty.insert Headers.contentType "application/json", Text.bytes "\x7b"⟩
    let aggregation : Envelope :=
      ⟨OrderedMap.empty.insert Headers.contentType "multipart/json", [0x0A, 0x09]⟩
    ¬Phase.Path (phasesOf ((Handler.mapper Builtin.uppercaseMap).answer mapping).events) ∧
      ¬Phase.Path (phasesOf ((Handler.aggregator
        { accumulate := Builtin.teamScore.accumulate }).answer aggregation).events) := by
  decide +kernel

end WindowGateway
