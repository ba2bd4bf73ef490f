import WindowGateway.Json.Fault
import WindowGateway.MediaType
import WindowGateway.Status
import WindowGateway.Text.Quoted
import WindowGateway.Text.Utf8
import WindowGateway.Wire.Field

/-! The errors with which a call fails: their texts, their kinds and the status of each. -/

namespace WindowGateway

/-- The hook that ran when a call failed. -/
inductive Stage
  | accumulate
  | finalize
  | map
  deriving DecidableEq, Repr

def Stage.name : Stage → String
  | accumulate => "accumulate"
  | finalize => "finalize"
  | map => "map"

inductive ItemFault
  | utf8 (fault : Text.Utf8Fault)
  | json (error : Json.ParseError)
  deriving DecidableEq, Repr

def ItemFault.message : ItemFault → String
  | utf8 fault => s!"invalid UTF-8: {fault.message}"
  | json error => s!"invalid JSON: {error.message}"

inductive CallError
  | contentType (found : Option String) (expected : Framing)
  | malformedItem (index : Nat) (fault : ItemFault)
  | collection (error : Wire.DecodeError)
  | hook (stage : Stage) (text : String)
  deriving DecidableEq, Repr

inductive ErrorKind
  | invalidContentType
  | malformedItem
  | collectionDecode
  | hook
  deriving DecidableEq, Repr

namespace ErrorKind

def all : List ErrorKind := [invalidContentType, malformedItem, collectionDecode, hook]

def name : ErrorKind → String
  | invalidContentType => "InvalidContentType"
  | malformedItem => "MalformedItem"
  | collectionDecode => "CollectionDecodeError"
  | hook => "HookError"

/-- The status code of a kind: a failed hook is the gateway's fault, all else the caller's. -/
def code : ErrorKind → Code
  | invalidContentType | malformedItem | collectionDecode => .invalidArgument
  | hook => .internal

def ofName? (name : String) : Option ErrorKind := all.find? (·.name == name)

/-- The kind that a status tells in its metadata. -/
def ofStatus? (s : Status) : Option ErrorKind := s.kindText?.bind ofName?

end ErrorKind

namespace CallError

def kind : CallError → ErrorKind
  | contentType _ _ => .invalidContentType
  | malformedItem _ _ => .malformedItem
  | collection _ => .collectionDecode
  | hook _ _ => .hook

def message : CallError → String
  | contentType found expected =>
    s!"invalid content type {Text.quotedOption found}: expected {expected.contentType}"
  | malformedItem index fault => s!"malformed item at index {index}: {fault.message}"
  | collection error => s!"failed to decode payload collection: {error.message}"
  | hook stage text => s!"{stage.name} hook failed: {text}"

/-- The text of the error that lies under this one, if there is one with a text of its own. -/
def cause? : CallError → Option String
  | contentType _ _ => none
  | malformedItem _ fault => some fault.message
  | collection error => some error.message
  | hook _ text => some text

def status (e : CallError) : Status :=
  ⟨e.kind.code, e.message, some (Text.bytes e.kind.name)⟩

end CallError

end WindowGateway
