import WindowGateway.Headers
import WindowGateway.Text.Utf8
import WindowGateway.Wire.Field

/-! Messages: the wire form of an envelope. The payload is field 1, left out if it is empty. Each
header is an entry in field 2, itself a message with the name as field 1 and the value as field 2,
each left out if it is empty. Of repeated fields the last one counts. -/

namespace WindowGateway.Wire

/-- A length-delimited field that is left out if its value is empty. -/
def writeUnlessEmpty (field : Nat) (value : List UInt8) : List UInt8 :=
  if value.isEmpty then [] else writeDelimited field value

def encodeHeader (header : String × String) : List UInt8 :=
  writeDelimited 2
    (writeUnlessEmpty 1 (Text.bytes header.1) ++ writeUnlessEmpty 2 (Text.bytes header.2))

/-- The bytes of an envelope, its headers in their order. -/
def encodeMessage (e : Envelope) : List UInt8 :=
  writeUnlessEmpty 1 e.payload ++ e.headers.entries.flatMap encodeHeader

/-- The text of a field that must be length-delimited. -/
def readText (t : WireType) (s : List UInt8) : Except Fault (String × List UInt8) :=
  match readDelimited t s with
  | .error f => .error f
  | .ok (value, s) =>
    match Text.ofBytes value with
    | .ok text => .ok (text, s)
    | .error _ => .error .notUtf8

/-- Reads the fields of a header entry until `after` bytes are left, and fails if it misses that
place. A field is read even if it reaches beyond the entry. -/
def readEntryFields (after : Nat) :
    Nat → String × String → List UInt8 → Except Fault ((String × String) × List UInt8)
  | 0, header, s => if s.length = after then .ok (header, s) else .error .lengthExceeded
  | fuel + 1, header, s =>
    if s.length ≤ after then if s.length = after then .ok (header, s) else .error .lengthExceeded
    else match readKey s with
      | .error f => .error f
      | .ok (key, s) =>
        if key.field = 1 then
          match readText key.wireType s with
          | .error f => .error f
          | .ok (name, s) => readEntryFields after fuel (name, header.2) s
        else if key.field = 2 then
          match readText key.wireType s with
          | .error f => .error f
          | .ok (value, s) => readEntryFields after fuel (header.1, value) s
        else
          match skipField (maxLevels - 1) key s with
          | .error f => .error f
          | .ok s => readEntryFields after fuel header s

/-- The header entry whose length stands at the front. -/
def readEntry (s : List UInt8) : Except Fault ((String × String) × List UInt8) :=
  match readVarint s with
  | .error f => .error f
  | .ok (n, s) =>
    if s.length < n then .error .underflow
    else readEntryFields (s.length - n) (s.length + 1) ("", "") s

/-- Reads at most `fuel` fields of a message into an envelope. -/
def decodeFields : Nat → Envelope → List UInt8 → Except DecodeError Envelope
  | _, e, [] => .ok e
  | 0, _, _ :: _ => .error ⟨none, .invalidVarint⟩
  | fuel + 1, e, s@(_ :: _) =>
    match outside (readKey s) with
    | .error f => .error f
    | .ok (key, s) =>
      if key.field = 1 then
        match inField "GrpcMessage.payload" (readDelimited key.wireType s) with
        | .error f => .error f
        | .ok (payload, s) => decodeFields fuel { e with payload } s
      else if key.field = 2 then
        match inField "GrpcMessage.headers" (readEntry s) with
        | .error f => .error f
        | .ok ((name, value), s) =>
          decodeFields fuel { e with headers := e.headers.insert name value } s
      else
        match outside (skipField maxLevels key s) with
        | .error f => .error f
        | .ok s => decodeFields fuel e s

def decodeMessage (s : List UInt8) : Except DecodeError Envelope :=
  decodeFields s.length ⟨.empty, []⟩ s

end WindowGateway.Wire
