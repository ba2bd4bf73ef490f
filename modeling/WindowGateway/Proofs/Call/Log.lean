import WindowGateway.Proofs.Call.Chronicle

/-! The log of an aggregation, as it is shown: each line with its level, its text and its values.
The lines tell the sizes of what each stage leaves, and the last of them tells how the call ends. -/

namespace WindowGateway

open Wire (decodeCollection)

/-! ### Lines -/

namespace LogLine

def received (bytes : Nat) : LogLine :=
  ⟨.debug, "received call", [("phase", .text "received"), ("bytes", .count bytes)]⟩

def rejected (e : CallError) : LogLine :=
  ⟨.warn, "rejected call",
    [("phase", .text "rejected"), ("kind", .text e.kind.name), ("error", .text e.message)]⟩

def validated : LogLine :=
  ⟨.debug, "validated call",
    [("phase", .text "validated"), ("content_type", .text "multipart/json")]⟩

def decoded (items : Nat) : LogLine :=
  ⟨.debug, "decoded batch", [("phase", .text "decoded"), ("items", .count items)]⟩

def foldedItem (index keys : Nat) : LogLine :=
  ⟨.trace, "folded item", [("index", .count index), ("keys", .count keys)]⟩

def folded (keys : Nat) : LogLine :=
  ⟨.debug, "folded batch", [("phase", .text "folded"), ("keys", .count keys)]⟩

def finalizedState (folded emitted : Nat) : LogLine :=
  ⟨.debug, "finalized state", [("folded", .count folded), ("emitted", .count emitted)]⟩

def finalized (keys : Nat) : LogLine :=
  ⟨.debug, "finalized batch", [("phase", .text "finalized"), ("keys", .count keys)]⟩

def encoded (bytes : Nat) : LogLine :=
  ⟨.debug, "encoded reply", [("phase", .text "encoded"), ("bytes", .count bytes)]⟩

def responded (bytes : Nat) : LogLine :=
  ⟨.info, "call completed",
    [("phase", .text "responded"), ("content_type", .text "multipart/json"),
      ("bytes", .count bytes)]⟩

def failed (e : CallError) : LogLine :=
  ⟨.warn, "call failed",
    [("phase", .text "failed"), ("kind", .text e.kind.name), ("error", .text e.message)]⟩

/-- The lines of items that are folded: the index of each, and the number of records after it. -/
def ofItems (tables : List RecordTable) : List LogLine :=
  tables.mapIdx fun index table => .foldedItem index table.size

end LogLine

theorem line_itemEvents (tables : List RecordTable) :
    (itemEvents tables).map Event.line = LogLine.ofItems tables := by
  refine List.ext_getElem? fun k => ?_
  rw [itemEvents, LogLine.ofItems, List.getElem?_map, List.getElem?_mapIdx, List.getElem?_mapIdx]
  cases tables[k]? <;> rfl

theorem level_of_mem_ofItems {tables : List RecordTable} {line : LogLine}
    (hline : line ∈ LogLine.ofItems tables) : line.level = .trace := by
  obtain ⟨index, hindex, rfl⟩ := List.mem_mapIdx.mp hline
  rfl

/-- The lines of an aggregation, for each of the ways in which it can end. A line for an item stands
for each item up to the first that fails, and the later stages have lines if there is none. -/
inductive Told (a : Aggregator) (request : Envelope) :
    List LogLine → Except Interruption Envelope → Prop
  | rejected {e : CallError} (refused : ¬request.headers.Announce .batch)
      (error : e = .contentType (request.headers.get? Headers.contentType) .batch) :
    Told a request [.received request.payload.length, .rejected e] (.error (.error e))
  | undecodable {error : Wire.DecodeError} (announced : request.headers.Announce .batch)
      (decoded : decodeCollection request.payload = .error error) :
    Told a request
      [.received request.payload.length, .validated, .failed (.collection error)]
      (.error (.error (.collection error)))
  | unfolded {items : List (List UInt8)} {tables : List RecordTable} {e : CallError}
      (announced : request.headers.Announce .batch)
      (decoded : decodeCollection request.payload = .ok items)
      (along : TablesAlong a.accumulate request.headers items tables)
      (fewer : tables.length < items.length)
      (folded : (fold a.accumulate request.headers items).result = .error e) :
    Told a request
      ([.received request.payload.length, .validated, .decoded items.length] ++
        LogLine.ofItems tables ++ [.failed e])
      (.error (.error e))
  | unreleased {items : List (List UInt8)} {tables : List RecordTable} {table : RecordTable}
      {fault : HookFault} (announced : request.headers.Announce .batch)
      (decoded : decodeCollection request.payload = .ok items)
      (along : TablesAlong a.accumulate request.headers items tables)
      (all : tables.length = items.length)
      (folded : (fold a.accumulate request.headers items).result = .ok table)
      (released : a.finalize.release table = .error fault) :
    Told a request
      ([.received request.payload.length, .validated, .decoded items.length] ++
        LogLine.ofItems tables ++
        [.folded table.size, .failed (.hook .finalize fault.text)])
      (.error (.error (.hook .finalize fault.text)))
  | replied {items : List (List UInt8)} {tables : List RecordTable} {table emitted : RecordTable}
      {reply : Envelope} (announced : request.headers.Announce .batch)
      (decoded : decodeCollection request.payload = .ok items)
      (along : TablesAlong a.accumulate request.headers items tables)
      (all : tables.length = items.length)
      (folded : (fold a.accumulate request.headers items).result = .ok table)
      (released : a.finalize.release table = .ok emitted)
      (payload : reply.payload = encodeRecords emitted) :
    Told a request
      ([.received request.payload.length, .validated, .decoded items.length] ++
        LogLine.ofItems tables ++
        [.folded table.size, .finalizedState table.size emitted.size, .finalized emitted.size,
          .encoded reply.payload.length, .responded reply.payload.length])
      (.ok reply)

section Told

variable {a : Aggregator} {request : Envelope} {call : Logged Interruption Envelope}

theorem told_of_chronicle (hc : Chronicle (.aggregator a) request call)
    (hp : ∀ panic, call.result ≠ .error (.panic panic)) :
    Told a request (call.events.map Event.line) call.result := by
  cases hc with
  | rejected hn => exact .rejected hn rfl
  | undecodable ha hd => exact .undecodable ha hd
  | unfolded ha hd ht hsome hf =>
    simp only [List.map_append, line_itemEvents]
    exact .unfolded ha hd ht hsome hf
  | unreleased ha hd ht hall hf hr =>
    simp only [List.map_append, line_itemEvents]
    exact .unreleased ha hd ht hall hf hr
  | aborted => exact absurd rfl (hp _)
  | @replied _ _ _ _ _ emitted added ha hd ht hall hf hr =>
    let reply : Envelope :=
      ⟨added.insert Headers.contentType Framing.batch.contentType, encodeRecords emitted⟩
    have hpayload : reply.payload = encodeRecords emitted := rfl
    simp only [List.map_append, line_itemEvents]
    exact Told.replied ha hd ht hall hf hr hpayload

end Told

/-! ### The last line -/

/-- The line tells how a call ends: a reply by its length, an error by its kind and its text. No
line tells of a panic that ends a call. -/
def LogLine.Closes (last : LogLine) : Except Interruption Envelope → Prop
  | .ok reply => last = .responded reply.payload.length
  | .error (.error e) =>
    if e.kind = .invalidContentType then last = .rejected e else last = .failed e
  | .error (.panic _) => False

/-- The log ends in its one line of level info or above, and that line tells how the call ends. -/
def Concluded (lines : List LogLine) (result : Except Interruption Envelope) : Prop :=
  ∃ before last, lines = before ++ [last] ∧
    (∀ line ∈ before, line.level.rank < Level.info.rank) ∧ last.Closes result

section Concluded

variable {a : Aggregator} {request : Envelope} {lines : List LogLine}
  {result : Except Interruption Envelope}

theorem closes_failed {e : CallError} (hk : e.kind ≠ .invalidContentType) :
    (LogLine.failed e).Closes (.error (.error e)) := by
  rw [LogLine.Closes, if_neg hk]

theorem kind_ne_of_ofFold {e : CallError} (he : e.OfFold) : e.kind ≠ .invalidContentType := by
  obtain ⟨_, _, rfl⟩ | ⟨_, rfl⟩ := he <;> exact nofun

theorem concluded_of_items {tables : List RecordTable} {start : List LogLine}
    (rest : List LogLine) {last : LogLine}
    (hstart : ∀ line ∈ start, line.level.rank < Level.info.rank)
    (hrest : ∀ line ∈ rest, line.level.rank < Level.info.rank) (hlast : last.Closes result) :
    Concluded (start ++ LogLine.ofItems tables ++ (rest ++ [last])) result := by
  refine ⟨start ++ LogLine.ofItems tables ++ rest, last, (List.append_assoc ..).symm,
    fun line hline => ?_, hlast⟩
  rw [List.mem_append, List.mem_append] at hline
  obtain (hline | hline) | hline := hline
  · exact hstart line hline
  · rw [level_of_mem_ofItems hline]
    decide
  · exact hrest line hline

theorem concluded_of_told (ht : Told a request lines result) : Concluded lines result := by
  have hstart (n k : Nat) : ∀ line ∈ [LogLine.received n, .validated, .decoded k],
      line.level.rank < Level.info.rank := by
    simp [LogLine.received, LogLine.validated, LogLine.decoded, Level.rank]
  cases ht with
  | rejected _ he =>
    subst he
    exact ⟨[.received _], _, rfl, by simp [LogLine.received, Level.rank], rfl⟩
  | undecodable =>
    exact ⟨[.received _, .validated], _, rfl,
      by simp [LogLine.received, LogLine.validated, Level.rank], closes_failed nofun⟩
  | unfolded _ _ _ _ hf =>
    exact concluded_of_items [] (hstart _ _) (by simp)
      (closes_failed (kind_ne_of_ofFold (ofFold_of_fold hf)))
  | unreleased =>
    exact concluded_of_items [.folded _] (hstart _ _) (by simp [LogLine.folded, Level.rank])
      (closes_failed nofun)
  | replied =>
    exact concluded_of_items
      [.folded _, .finalizedState _ _, .finalized _, .encoded _] (hstart _ _)
      (by simp [LogLine.folded, LogLine.finalizedState, LogLine.finalized, LogLine.encoded,
        Level.rank]) rfl

end Concluded

/-- The log of an aggregation tells what the call does, stage by stage, and then how it ends. -/
theorem aggregation_log (a : Aggregator) (request : Envelope) {added : Headers}
    (hh : a.finalize.replyHeaders .empty = .ok added) :
    let call := (Handler.aggregator a).answer request
    Told a request (call.events.map Event.line) call.result ∧
      Concluded (call.events.map Event.line) call.result := by
  intro call
  have hp (panic : Panic) : call.result ≠ .error (.panic panic) := by
    intro hpanic
    obtain ⟨_, _, _, hh'⟩ := headersPanic_of_answer hpanic
    rw [hh] at hh'
    cases hh'
  have ht : Told a request (call.events.map Event.line) call.result :=
    told_of_chronicle (chronicle_answer (.aggregator a) request) hp
  exact ⟨ht, concluded_of_told ht⟩

/-- A batch whose second item is no text: the first item is folded, the third is not come to. -/
theorem aggregation_log_malformed :
    let a : Aggregator := { accumulate := Builtin.teamScore.accumulate }
    let request : Envelope :=
      ⟨OrderedMap.empty.insert Headers.contentType "multipart/json", Wire.encodeCollection
        [Text.bytes "\x7b\"team\":\"a\",\"score\":1\x7d", [0xFF], Text.bytes "null"]⟩
    let call := (Handler.aggregator a).answer request
    a.finalize.replyHeaders .empty = .ok .empty ∧
      call.events.map Event.line =
        [⟨.debug, "received call", [("phase", .text "received"), ("bytes", .count 33)]⟩,
          ⟨.debug, "validated call",
            [("phase", .text "validated"), ("content_type", .text "multipart/json")]⟩,
          ⟨.debug, "decoded batch", [("phase", .text "decoded"), ("items", .count 3)]⟩,
          ⟨.trace, "folded item", [("index", .count 0), ("keys", .count 1)]⟩,
          ⟨.warn, "call failed",
            [("phase", .text "failed"), ("kind", .text "MalformedItem"),
              ("error", .text ("malformed item at index 1: " ++
                "invalid UTF-8: invalid utf-8 sequence of 1 bytes from index 0"))]⟩] ∧
      Told a request (call.events.map Event.line) call.result ∧
      Concluded (call.events.map Event.line) call.result := by
  intro a request call
  exact ⟨rfl, by decide +kernel, aggregation_log a request rfl⟩

end WindowGateway
