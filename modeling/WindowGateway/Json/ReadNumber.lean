import WindowGateway.Json.Fault
import WindowGateway.Json.Value

/-! Reading JSON numbers. An integer that 64 bits can hold is exact. Any other number is its first
digits, as many as make an integer below `2^64`, scaled by a power of ten in floating-point
arithmetic; the digits dropped before the point count in the power. -/

namespace WindowGateway.Json

def isDigit (b : UInt8) : Bool := 0x30 ≤ b && b ≤ 0x39

def digitValue (b : UInt8) : Nat := b.toNat - 0x30

/-- The number with the digits of `value` followed by as many of the given ones as keep it below
`2^64`, and the digits left over. -/
def absorb (value : Nat) : List UInt8 → Nat × List UInt8
  | [] => (value, [])
  | d :: ds =>
    if 10 * value + digitValue d < 0x10000000000000000 then absorb (10 * value + digitValue d) ds
    else (value, d :: ds)

/-- `significand · 10^exponent` in floating-point arithmetic: one rounding to get the significand,
and one for each power of ten. -/
def scale? (significand : Nat) (exponent : Int) : Option Binary64 := do
  let x ← Binary64.nearest? significand 1
  if 0 ≤ exponent then x.scaleUp? exponent.toNat else x.scaleDown? (-exponent).toNat

/-- The number before `rest` with the given significand and exponent. -/
def scaled (negative : Bool) (significand : Nat) (exponent : Int) (rest : List UInt8) :
    Except Fault (Number × List UInt8) :=
  match scale? significand exponent with
  | some x => .ok (.real negative x, rest)
  | none => .error (.before .numberOutOfRange rest)

/-- The exponent at the front, if it is below `2^31`, and the bytes after it or after the digit that
takes it too far. -/
def exponentDigits (value : Nat) : List UInt8 → Option Nat × List UInt8
  | [] => (some value, [])
  | b :: rest =>
    if isDigit b then
      if 10 * value + digitValue b < 0x80000000 then exponentDigits (10 * value + digitValue b) rest
      else (none, rest)
    else (some value, b :: rest)

/-- The rest of a number after the letter of its exponent. -/
def readExponent (negative : Bool) (significand : Nat) (exponent : Int) (s : List UInt8) :
    Except Fault (Number × List UInt8) :=
  let (down, s) := match s with
    | 0x2B :: s => (false, s)
    | 0x2D :: s => (true, s)
    | s => (false, s)
  match s with
  | [] => .error (.before .endInValue [])
  | b :: rest =>
    if isDigit b then
      match exponentDigits 0 (b :: rest) with
      | (some e, rest) =>
        scaled negative significand (if down then exponent - e else exponent + e) rest
      | (none, rest) =>
        if significand ≠ 0 ∧ !down then .error (.before .numberOutOfRange rest)
        else scaled negative 0 0 (rest.dropWhile isDigit)
    else .error (.before .invalidNumber rest)

/-- The rest of a number from its exponent on, if it has one. -/
def readPower (negative : Bool) (significand : Nat) (exponent : Int) :
    List UInt8 → Except Fault (Number × List UInt8)
  | 0x65 :: s => readExponent negative significand exponent s
  | 0x45 :: s => readExponent negative significand exponent s
  | s => scaled negative significand exponent s

/-- The rest of a number from its point on, if it has one. -/
def readScaled (negative : Bool) (significand : Nat) (exponent : Int) :
    List UInt8 → Except Fault (Number × List UInt8)
  | 0x2E :: s =>
    let digits := s.takeWhile isDigit
    let rest := s.dropWhile isDigit
    if digits.isEmpty then
      .error (.on (if rest.isEmpty then .endInValue else .invalidNumber) rest)
    else
      let (significand, left) := absorb significand digits
      readPower negative significand (exponent - (digits.length - left.length : Nat)) rest
  | s => readPower negative significand exponent s

def hasScale : List UInt8 → Bool
  | b :: _ => b == 0x2E || b == 0x65 || b == 0x45
  | [] => false

/-- The rest of a number after an integer part of 64 bits. -/
def readAfterInteger (negative : Bool) (value : Nat) (s : List UInt8) :
    Except Fault (Number × List UInt8) :=
  if hasScale s then readScaled negative value 0 s
  else if negative && value == 0 then scaled negative 0 0 s
  else match Number.ofInt? (if negative then -(value : Int) else value) with
    | some n => .ok (n, s)
    | none => scaled negative value 0 s

def readNumber (negative : Bool) : List UInt8 → Except Fault (Number × List UInt8)
  | [] => .error (.before .endInValue [])
  | 0x30 :: rest =>
    if (rest.head?.map isDigit).getD false then .error (.on .invalidNumber rest)
    else readAfterInteger negative 0 rest
  | b :: rest =>
    if isDigit b then
      let digits := (b :: rest).takeWhile isDigit
      let after := (b :: rest).dropWhile isDigit
      match absorb 0 digits with
      | (value, []) => readAfterInteger negative value after
      | (value, left) => readScaled negative value left.length after
    else .error (.before .invalidNumber rest)

end WindowGateway.Json
