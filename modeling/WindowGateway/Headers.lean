import WindowGateway.Json.Value

/-! Call headers, the envelope that carries them, and the bounds of the window that a batch belongs
to. Of all headers the library interprets `contentType` alone; the bounds are passed on as they
are. -/

namespace WindowGateway

/-- Text headers of a call. -/
abbrev Headers := OrderedMap String

namespace Headers

def contentType : String := "contentType"

def windowStart : String := "windowStartTime"

def windowEnd : String := "windowEndTime"

/-- The headers with one more, if there is a value for it. -/
def insert? (h : Headers) (name : String) (value : Option String) : Headers :=
  match value with
  | some v => h.insert name v
  | none => h

end Headers

@[ext] structure Envelope where
  headers : Headers
  payload : List UInt8

instance : Inhabited Envelope := ⟨⟨.empty, []⟩⟩

/-- The bounds of a window, as far as the headers name them. -/
structure Window where
  start : Option String
  stop : Option String
  deriving DecidableEq

namespace Window

def ofHeaders (h : Headers) : Window := ⟨h.get? Headers.windowStart, h.get? Headers.windowEnd⟩

def headers (w : Window) : Headers :=
  (Headers.insert? .empty Headers.windowStart w.start).insert? Headers.windowEnd w.stop

/-- The members of a record with the bounds as `from` and `to`; a bound that is absent is left
out. -/
def stamp (w : Window) (record : OrderedMap Json.Document) : OrderedMap Json.Document :=
  let record := match w.start with
    | some s => record.insert "from" (.ofString s)
    | none => record
  match w.stop with
  | some s => record.insert "to" (.ofString s)
  | none => record

end Window

end WindowGateway
