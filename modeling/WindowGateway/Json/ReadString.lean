import WindowGateway.Json.Fault
import WindowGateway.Text.Utf8

/-! Reading JSON string literals. The bytes between the quotes, with the escapes replaced by the
UTF-8 bytes that they stand for, have to be UTF-8. They are checked if a document is read from bytes
as they come, and not if it is read from a text. -/

namespace WindowGateway.Json

def hexValue? (b : UInt8) : Option Nat :=
  if 0x30 ≤ b ∧ b ≤ 0x39 then some (b.toNat - 0x30)
  else if 0x41 ≤ b ∧ b ≤ 0x46 then some (b.toNat - 0x41 + 10)
  else if 0x61 ≤ b ∧ b ≤ 0x66 then some (b.toNat - 0x61 + 10)
  else none

/-- The number of four hexadecimal digits at the front. -/
def readCodeUnit : List UInt8 → Except Fault (Nat × List UInt8)
  | a :: b :: c :: d :: rest =>
    match hexValue? a, hexValue? b, hexValue? c, hexValue? d with
    | some a, some b, some c, some d => .ok (((a * 16 + b) * 16 + c) * 16 + d, rest)
    | _, _, _, _ => .error (.before .invalidEscape rest)
  | _ => .error (.before .endInString [])

/-- Whether a code unit is the second of a surrogate pair. -/
def isLowSurrogate (n : Nat) : Bool := 0xDC00 ≤ n && n ≤ 0xDFFF

/-- Whether a code unit is the first of a surrogate pair. -/
def isHighSurrogate (n : Nat) : Bool := 0xD800 ≤ n && n ≤ 0xDBFF

/-- The bytes of the character whose code units start at the front. -/
def readUnicode (s : List UInt8) : Except Fault (List UInt8 × List UInt8) := do
  let (high, s) ← readCodeUnit s
  if isLowSurrogate high then throw (.before .loneSurrogate s)
  if !isHighSurrogate high then return (Text.Utf8.encodeChar (Char.ofNat high), s)
  match s with
  | [] => throw (.before .endInString [])
  | 0x5C :: [] => throw (.before .endInString [])
  | 0x5C :: 0x75 :: s =>
    let (low, s) ← readCodeUnit s
    if isLowSurrogate low then
      let code := 0x10000 + (high - 0xD800) * 0x400 + (low - 0xDC00)
      return (Text.Utf8.encodeChar (Char.ofNat code), s)
    else throw (.before .loneSurrogate s)
  | 0x5C :: _ :: s => throw (.before .unfinishedSurrogate s)
  | _ :: s => throw (.before .unfinishedSurrogate s)

/-- The bytes that an escape stands for, read after its backslash. -/
def readEscape : List UInt8 → Except Fault (List UInt8 × List UInt8)
  | [] => .error (.before .endInString [])
  | b :: rest =>
    if b = 0x22 ∨ b = 0x5C ∨ b = 0x2F then .ok ([b], rest)
    else if b = 0x62 then .ok ([0x08], rest)
    else if b = 0x66 then .ok ([0x0C], rest)
    else if b = 0x6E then .ok ([0x0A], rest)
    else if b = 0x72 then .ok ([0x0D], rest)
    else if b = 0x74 then .ok ([0x09], rest)
    else if b = 0x75 then readUnicode rest
    else .error (.before .invalidEscape rest)

/-- What a document is read from: bytes of any kind, or the bytes of a text. -/
inductive Source
  | bytes
  | text
  deriving DecidableEq, Repr

/-- The text of the bytes that a literal stands for. -/
def Source.literalText : Source → List UInt8 → Except Text.Utf8Fault String
  | bytes, out => Text.ofBytes out
  | text, out => .ok (Text.ofBytesUnchecked out)

/-- Reads at most `fuel` characters and escapes up to the closing quote; `done` holds the bytes of
the string so far, the last one first. -/
def readLiteralFrom (source : Source) :
    Nat → List UInt8 → List UInt8 → Except Fault (String × List UInt8)
  | _, _, [] => .error (.before .endInString [])
  | 0, _, s => .error (.before .endInString s)
  | fuel + 1, done, b :: rest =>
    if b = 0x22 then
      match source.literalText done.reverse with
      | .ok text => .ok (text, rest)
      | .error f => .error ⟨.invalidCodePoint, rest, done.length - f.validUpTo⟩
    else if b = 0x5C then
      match readEscape rest with
      | .ok (bytes, rest) => readLiteralFrom source fuel (bytes.reverse ++ done) rest
      | .error f => .error f
    else if b < 0x20 then .error (.before .controlCharacter rest)
    else readLiteralFrom source fuel (b :: done) rest

def readLiteral (source : Source) (s : List UInt8) : Except Fault (String × List UInt8) :=
  readLiteralFrom source s.length [] s

end WindowGateway.Json
