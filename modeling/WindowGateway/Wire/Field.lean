import WindowGateway.Wire.Varint

/-! Fields of wire messages. A message is a sequence of fields, each a key, which holds a number and
a wire type, and a value of that type. A field that the message does not know is skipped, a group of
fields with all that it holds. -/

namespace WindowGateway.Wire

inductive WireType
  | varint
  | fixed64
  | lengthDelimited
  | startGroup
  | endGroup
  | fixed32
  deriving DecidableEq, Repr

def WireType.ofNat? : Nat → Option WireType
  | 0 => some .varint
  | 1 => some .fixed64
  | 2 => some .lengthDelimited
  | 3 => some .startGroup
  | 4 => some .endGroup
  | 5 => some .fixed32
  | _ => none

def WireType.name : WireType → String
  | varint => "Varint"
  | fixed64 => "SixtyFourBit"
  | lengthDelimited => "LengthDelimited"
  | startGroup => "StartGroup"
  | endGroup => "EndGroup"
  | fixed32 => "ThirtyTwoBit"

inductive Fault
  | invalidVarint
  | invalidKey (key : Nat)
  | invalidWireType (value : Nat)
  | fieldZero
  | notDelimited (actual : WireType)
  | underflow
  | unexpectedEndGroup
  | tooDeep
  | lengthExceeded
  | notUtf8
  deriving DecidableEq, Repr

def Fault.reason : Fault → String
  | invalidVarint => "invalid varint"
  | invalidKey key => s!"invalid key value: {key}"
  | invalidWireType value => s!"invalid wire type value: {value}"
  | fieldZero => "invalid tag value: 0"
  | notDelimited actual => s!"invalid wire type: {actual.name} (expected LengthDelimited)"
  | underflow => "buffer underflow"
  | unexpectedEndGroup => "unexpected end group tag"
  | tooDeep => "recursion limit reached"
  | lengthExceeded => "delimited length exceeded"
  | notUtf8 => "invalid string value: data is not UTF-8 encoded"

/-- A fault, with the known field in which it lies, if it lies in one. -/
structure DecodeError where
  field : Option String
  fault : Fault
  deriving DecidableEq, Repr

def DecodeError.message (e : DecodeError) : String :=
  let place := match e.field with
    | some name => name ++ ": "
    | none => ""
  s!"failed to decode Protobuf message: {place}{e.fault.reason}"

/-- A fault of the message itself. -/
def outside (x : Except Fault α) : Except DecodeError α := x.mapError (⟨none, ·⟩)

/-- A fault inside the field `name`. -/
def inField (name : String) (x : Except Fault α) : Except DecodeError α :=
  x.mapError (⟨some name, ·⟩)

@[simp] theorem outside_ok (a : α) : outside (.ok a) = .ok a := rfl

@[simp] theorem outside_error (f : Fault) :
    outside (.error f : Except Fault α) = .error ⟨none, f⟩ := rfl

@[simp] theorem inField_ok (name : String) (a : α) : inField name (.ok a) = .ok a := rfl

@[simp] theorem inField_error (name : String) (f : Fault) :
    inField name (.error f : Except Fault α) = .error ⟨some name, f⟩ := rfl

structure Key where
  field : Nat
  wireType : WireType
  deriving DecidableEq, Repr

def readVarint (s : List UInt8) : Except Fault (Nat × List UInt8) :=
  match readVarint? s with
  | some r => .ok r
  | none => .error .invalidVarint

def readKey (s : List UInt8) : Except Fault (Key × List UInt8) :=
  match readVarint s with
  | .error f => .error f
  | .ok (key, s) =>
    if 0x100000000 ≤ key then .error (.invalidKey key)
    else match WireType.ofNat? (key % 8) with
      | none => .error (.invalidWireType (key % 8))
      | some t => if key / 8 = 0 then .error .fieldZero else .ok (⟨key / 8, t⟩, s)

def takeBytes (n : Nat) (s : List UInt8) : Except Fault (List UInt8 × List UInt8) :=
  let (front, rest) := s.splitAt n
  if front.length = n then .ok (front, rest) else .error .underflow

/-- The bytes whose length stands at the front. -/
def readBytes (s : List UInt8) : Except Fault (List UInt8 × List UInt8) :=
  match readVarint s with
  | .error f => .error f
  | .ok (n, s) => takeBytes n s

/-- The bytes of a field that must be length-delimited. -/
def readDelimited (t : WireType) (s : List UInt8) : Except Fault (List UInt8 × List UInt8) :=
  if t = .lengthDelimited then readBytes s else .error (.notDelimited t)

/-- Skips fields up to the end of the group `field`; `skip` skips the value of one. -/
def skipGroup (skip : Key → List UInt8 → Except Fault (List UInt8)) (field : Nat) :
    Nat → List UInt8 → Except Fault (List UInt8)
  | 0, _ => .error .invalidVarint
  | fuel + 1, s =>
    match readKey s with
    | .error f => .error f
    | .ok (key, s) =>
      if key.wireType = .endGroup then
        if key.field = field then .ok s else .error .unexpectedEndGroup
      else match skip key s with
        | .error f => .error f
        | .ok s => skipGroup skip field fuel s

/-- Skips the value of a field. Groups nest fewer than `levels` deep around a value. -/
def skipField : Nat → Key → List UInt8 → Except Fault (List UInt8)
  | 0, _, _ => .error .tooDeep
  | levels + 1, key, s =>
    match key.wireType with
    | .varint => (readVarint s).map Prod.snd
    | .fixed64 => (takeBytes 8 s).map Prod.snd
    | .fixed32 => (takeBytes 4 s).map Prod.snd
    | .lengthDelimited => (readBytes s).map Prod.snd
    | .startGroup => skipGroup (skipField levels) key.field (s.length + 1) s
    | .endGroup => .error .unexpectedEndGroup

/-- How deep unknown groups may nest in a message. -/
def maxLevels : Nat := 100

/-- The key of field `field` with a length-delimited value, and the value. -/
def writeDelimited (field : Nat) (value : List UInt8) : List UInt8 :=
  writeVarint (8 * field + 2) ++ writeVarint value.length ++ value

end WindowGateway.Wire
