/-! The status with which a remote call fails: a code, a message, and possibly the kind of error as
metadata. -/

namespace WindowGateway

inductive Code
  | ok
  | cancelled
  | unknown
  | invalidArgument
  | deadlineExceeded
  | notFound
  | alreadyExists
  | permissionDenied
  | resourceExhausted
  | failedPrecondition
  | aborted
  | outOfRange
  | unimplemented
  | internal
  | unavailable
  | dataLoss
  | unauthenticated
  deriving DecidableEq, Repr

namespace Code

/-- The codes in the order of their numbers. -/
def all : List Code :=
  [ok, cancelled, unknown, invalidArgument, deadlineExceeded, notFound, alreadyExists,
    permissionDenied, resourceExhausted, failedPrecondition, aborted, outOfRange, unimplemented,
    internal, unavailable, dataLoss, unauthenticated]

def number (c : Code) : Nat := all.idxOf c

/-- The code with the given number; a number that no code has counts as unknown. -/
def ofInt (n : Int) : Code := if n < 0 then unknown else all.getD n.toNat unknown

def name : Code → String
  | ok => "Ok"
  | cancelled => "Cancelled"
  | unknown => "Unknown"
  | invalidArgument => "InvalidArgument"
  | deadlineExceeded => "DeadlineExceeded"
  | notFound => "NotFound"
  | alreadyExists => "AlreadyExists"
  | permissionDenied => "PermissionDenied"
  | resourceExhausted => "ResourceExhausted"
  | failedPrecondition => "FailedPrecondition"
  | aborted => "Aborted"
  | outOfRange => "OutOfRange"
  | unimplemented => "Unimplemented"
  | internal => "Internal"
  | unavailable => "Unavailable"
  | dataLoss => "DataLoss"
  | unauthenticated => "Unauthenticated"

end Code

/-- A status, with the bytes of the metadata entry that names the kind of error. -/
structure Status where
  code : Code
  message : String
  kindEntry : Option (List UInt8)
  deriving DecidableEq, Repr

/-- The metadata entry as text, if it holds visible ASCII, spaces and tabs only. -/
def Status.kindText? (s : Status) : Option String := do
  let entry ← s.kindEntry
  if entry.all fun b => (0x20 ≤ b && b < 0x7F) || b == 0x09 then
    some (String.ofList (entry.map fun b => Char.ofNat b.toNat))
  else none

end WindowGateway
