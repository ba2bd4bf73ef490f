import WindowGateway.Decimal.Binary64
import WindowGateway.Text.Digits
import WindowGateway.Toml.Node

/-! Numbers, times and truth values of TOML. Each is one word, except that a blank may stand between
a date and the time of day. -/

namespace WindowGateway.Toml

open Text (digitIn? digitRun ofDigits)

/-- Digits with single underscores between them. -/
def groupedDigits (radix : Nat) : List Char → Option (List Nat)
  | [] => none
  | [c] => (digitIn? radix c).map ([·])
  | c :: '_' :: cs => do pure ((← digitIn? radix c) :: (← groupedDigits radix cs))
  | c :: cs => do pure ((← digitIn? radix c) :: (← groupedDigits radix cs))

/-- Whether digits are a single zero or start with none. -/
def noLeadingZero (ds : List Nat) : Bool := ds.length == 1 || ds.head? != some 0

def splitSign : List Char → Bool × List Char
  | '-' :: cs => (true, cs)
  | '+' :: cs => (false, cs)
  | cs => (false, cs)

/-- A number in the given radix, below `2^63`. -/
def radixInteger? (radix : Nat) (cs : List Char) : Option Int := do
  let n := ofDigits radix (← groupedDigits radix cs)
  if n < 0x8000000000000000 then some n else none

def integer? (word : List Char) : Option Int :=
  match word with
  | '0' :: 'x' :: cs => radixInteger? 16 cs
  | '0' :: 'o' :: cs => radixInteger? 8 cs
  | '0' :: 'b' :: cs => radixInteger? 2 cs
  | _ => do
    let (negative, cs) := splitSign word
    let ds ← groupedDigits 10 cs
    let n := ofDigits 10 ds
    if noLeadingZero ds then
      if negative then if n ≤ 0x8000000000000000 then some (-(n : Int)) else none
      else if n < 0x8000000000000000 then some n else none
    else none

/-- Whether `digits · 10^place` is too large for a floating-point number of 64 bits. -/
def overflows (digits : Nat) (place : Int) : Bool :=
  if digits = 0 then false
  else
    let leading := place + (Nat.toDigits 10 digits).length
    if 400 < leading then true
    else if leading < 0 then false
    else match place with
      | .ofNat k => (Binary64.nearest? (digits * Nat.pow 10 k) 1).isNone
      | .negSucc k => (Binary64.nearest? digits (Nat.pow 10 (k + 1))).isNone

/-- The power of ten that the end of a number adds, or none if there is no exponent. -/
def exponent? : List Char → Option Int
  | [] => some 0
  | e :: cs =>
    if e = 'e' ∨ e = 'E' then
      let (negative, cs) := splitSign cs
      (groupedDigits 10 cs).map fun ds =>
        if negative then -(ofDigits 10 ds : Int) else ofDigits 10 ds
    else none

/-- Whether a word is a floating-point number: an integer with a fraction, an exponent or both, or
the name of a value that is no number. One that is too large is refused unless it is negative. -/
def isFloat (word : List Char) : Bool :=
  let (negative, cs) := splitSign word
  if cs = ['i', 'n', 'f'] ∨ cs = ['n', 'a', 'n'] then true
  else
    let mantissa := cs.takeWhile fun c => c ≠ 'e' && c ≠ 'E'
    let scale := cs.dropWhile fun c => c ≠ 'e' && c ≠ 'E'
    let whole := mantissa.takeWhile (· ≠ '.')
    let fraction := mantissa.dropWhile (· ≠ '.')
    let parts := do
      let whole ← groupedDigits 10 whole
      let fraction ← match fraction with
        | [] => some []
        | _ :: ds => groupedDigits 10 ds
      pure (whole, fraction, ← exponent? scale)
    match parts with
    | none => false
    | some (ds, fs, power) =>
      noLeadingZero ds && !(fraction.isEmpty && scale.isEmpty) &&
        (negative || !overflows (ofDigits 10 (ds ++ fs)) (power - fs.length))

/-- A number of exactly `width` digits within bounds, and the rest. -/
def boundedNumber (width low high : Nat) (cs : List Char) : Option (Nat × List Char) :=
  let (ds, rest) := digitRun 10 (cs.take width)
  let n := ofDigits 10 ds
  if ds.length = width ∧ rest.isEmpty ∧ low ≤ n ∧ n ≤ high then some (n, cs.drop width) else none

def expect (c : Char) : List Char → Option (List Char)
  | [] => none
  | d :: cs => if d = c then some cs else none

def daysIn (year month : Nat) : Nat :=
  if month = 2 then
    if year % 4 = 0 ∧ (year % 100 ≠ 0 ∨ year % 400 = 0) then 29 else 28
  else if month = 4 ∨ month = 6 ∨ month = 9 ∨ month = 11 then 30
  else 31

def afterDate (cs : List Char) : Option (List Char) := do
  let (year, cs) ← boundedNumber 4 0 9999 cs
  let (month, cs) ← boundedNumber 2 1 12 (← expect '-' cs)
  let (_, cs) ← boundedNumber 2 1 (daysIn year month) (← expect '-' cs)
  pure cs

def afterTimeOfDay (cs : List Char) : Option (List Char) := do
  let (_, cs) ← boundedNumber 2 0 23 cs
  let (_, cs) ← boundedNumber 2 0 59 (← expect ':' cs)
  let (_, cs) ← boundedNumber 2 0 60 (← expect ':' cs)
  match cs with
  | '.' :: cs =>
    let (ds, rest) := digitRun 10 cs
    if ds.isEmpty then none else some rest
  | cs => some cs

/-- Whether the rest of a time is nothing, or its distance from universal time. -/
def isOffset : List Char → Bool
  | [] => true
  | [c] => c == 'Z' || c == 'z'
  | c :: cs =>
    (c == '+' || c == '-') && match boundedNumber 2 0 23 cs with
      | some (_, ':' :: cs) =>
        match boundedNumber 2 0 59 cs with
        | some (_, []) => true
        | _ => false
      | _ => false

/-- Whether a word is a time of day with or without an offset. -/
def isTimeWithOffset (cs : List Char) : Bool :=
  match afterTimeOfDay cs with
  | some rest => isOffset rest
  | none => false

/-- Whether a word is a date, a time of day, or both. -/
def isTime (word : List Char) : Bool :=
  match afterDate word with
  | some [] => true
  | some (c :: cs) => (c == 'T' || c == 't' || c == ' ') && isTimeWithOffset cs
  | none => afterTimeOfDay word == some []

/-- Whether a word is a date without a time of day. -/
def isDate (word : List Char) : Bool := afterDate word == some []

def scalar? (word : List Char) : Option Node :=
  if word = ['t', 'r', 'u', 'e'] then some (.boolean true)
  else if word = ['f', 'a', 'l', 's', 'e'] then some (.boolean false)
  else if isTime word then some .time
  else if isFloat word then some .float
  else (integer? word).map .integer

def endsWord (c : Char) : Bool :=
  c == ' ' || c == '\t' || c == '\n' || c == '\r' || c == ',' || c == ']' || c == '\x7d' || c == '#'

def readScalar (cs : List Char) : Option (Node × List Char) :=
  let word := cs.takeWhile (!endsWord ·)
  let rest := cs.dropWhile (!endsWord ·)
  match rest with
  | ' ' :: d :: more =>
    if isDate word && d.isDigit then
      let clock := (d :: more).takeWhile (!endsWord ·)
      (scalar? (word ++ ' ' :: clock)).map (·, (d :: more).dropWhile (!endsWord ·))
    else (scalar? word).map (·, rest)
  | _ => (scalar? word).map (·, rest)

end WindowGateway.Toml
