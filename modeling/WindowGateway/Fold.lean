import WindowGateway.Call.Log
import WindowGateway.Hook
import WindowGateway.Json.Parse
import WindowGateway.Json.Render
import WindowGateway.Wire.Collection

/-! The stages of an aggregation. `fold` decodes the items of a batch and folds each into the table
of the call, in order and once, up to the first that fails; `finalizeTable` releases records from
the folded table; `encodeRecords` frames them. -/

namespace WindowGateway

def decodeItem (index : Nat) (bytes : List UInt8) : Except CallError Json.Document :=
  match Text.ofBytes bytes with
  | .error fault => .error (.malformedItem index (.utf8 fault))
  | .ok text =>
    match Json.Document.parseText text with
    | .error error => .error (.malformedItem index (.json error))
    | .ok d => .ok d

/-- The table after item `index`. -/
def foldItem (hook : Accumulate) (headers : Headers) (index : Nat) (table : RecordTable)
    (bytes : List UInt8) : Except CallError RecordTable :=
  match decodeItem index bytes with
  | .error e => .error e
  | .ok d =>
    match hook.run headers d table with
    | (.ok (), table) => .ok table
    | (.error fault, _) => invoke .accumulate (.error fault)

/-- The table after the items, the first of which has the given index. -/
def foldFrom (hook : Accumulate) (headers : Headers) :
    Nat → RecordTable → List (List UInt8) → Logged CallError RecordTable
  | _, table, [] => pure table
  | index, table, bytes :: items => do
    let table ← Logged.lift (foldItem hook headers index table bytes)
    Logged.log (.foldedItem index table.size)
    foldFrom hook headers (index + 1) table items

def fold (hook : Accumulate) (headers : Headers) (items : List (List UInt8)) :
    Logged CallError RecordTable :=
  foldFrom hook headers 0 .empty items

/-- The records that a folded table releases. -/
def finalizeTable (hook : Finalize) (table : RecordTable) : Logged CallError RecordTable := do
  let emitted ← Logged.lift (invoke .finalize (hook.release table))
  Logged.log (.finalizedTable table.size emitted.size)
  pure emitted

/-- The collection of a table's records, each as its compact text, in order. -/
def encodeRecords (table : RecordTable) : List UInt8 :=
  Wire.encodeCollection (table.values.map Json.Document.bytes)

end WindowGateway
