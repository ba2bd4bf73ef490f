import WindowGateway.Builtin.Field
import WindowGateway.Hook

/-! Tallies: accumulations that keep one record for each key with a total in it, and add to the
total what each item contributes. A new record starts with the bounds of the window and a total of
zero. -/

namespace WindowGateway.Builtin

open Json (Document Number)

/-- What an item contributes: an amount for the record of a key, and the fields that the record
starts with if it is new. -/
structure Contribution where
  key : String
  amount : Int
  fields : List (String × Document)

/-- An accumulation of totals. `total` is the field that holds the total. -/
structure Tally where
  total : String
  contribution : Document → Except FieldFault Contribution

def int64? (n : Int) : Option Document := if n < 0x8000000000000000 then Document.ofInt? n else none

def zero : Document := .ofNumber (.integer 0 (by decide))

/-- A record that starts with the bounds of the window. -/
def newRecord (headers : Headers) (fields : List (String × Document)) : Document :=
  .ofMembers
    (fields.foldl (fun record f => record.insert f.1 f.2)
      ((Window.ofHeaders headers).stamp .empty))

def addTo (record : Document) (field : String) (amount : Int) : Except HookFault Document :=
  match integerField record field with
  | .error fault => .error (.failed fault.message)
  | .ok current =>
    match int64? (current + amount) with
    | none => .error (.failed (FieldFault.overflow field).message)
    | some total =>
      match record.setField? field total with
      | none => .error (.panicked (.noMember field record))
      | some record => .ok record

/-- Adds what the item contributes to the record of its key. -/
def Tally.accumulate (tally : Tally) : Accumulate := fun headers item => .mk fun table =>
  match tally.contribution item with
  | .error fault => (.error (.failed fault.message), table)
  | .ok c =>
    let new := newRecord headers (c.fields ++ [(tally.total, zero)])
    let (record, table) := table.getOrInsert c.key new
    match addTo record tally.total c.amount with
    | .error fault => (.error fault, table)
    | .ok record => (.ok (), table.insert c.key record)

end WindowGateway.Builtin
