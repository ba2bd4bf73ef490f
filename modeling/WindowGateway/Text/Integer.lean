/-! Integers in decimal text: an optional sign and one or more ASCII digits, within 64 bits. A fault
is the first one from the left. -/

namespace WindowGateway.Text

/-- Why a text is not an integer of the wanted range. -/
inductive IntegerFault
  | empty
  | invalidDigit
  | tooLarge
  | tooSmall
  deriving DecidableEq, Repr

def IntegerFault.message : IntegerFault → String
  | .empty => "cannot parse integer from empty string"
  | .invalidDigit => "invalid digit found in string"
  | .tooLarge => "number too large to fit in target type"
  | .tooSmall => "number too small to fit in target type"

def digit? (c : Char) : Option Nat :=
  if '0' ≤ c ∧ c ≤ '9' then some (c.toNat - '0'.toNat) else none

/-- The number with the digits of `value` followed by `cs`, at most `limit`. -/
def readDigits (limit : Nat) (beyond : IntegerFault) : Nat → List Char → Except IntegerFault Nat
  | value, [] => .ok value
  | value, c :: cs =>
    match digit? c with
    | none => .error .invalidDigit
    | some d =>
      if 10 * value + d ≤ limit then readDigits limit beyond (10 * value + d) cs
      else .error beyond

/-- A natural number up to `limit`; a plus sign may stand before it. -/
def readNatural (limit : Nat) (s : String) : Except IntegerFault Nat :=
  match s.toList with
  | [] => .error .empty
  | '+' :: c :: cs => readDigits limit .tooLarge 0 (c :: cs)
  | cs => readDigits limit .tooLarge 0 cs

def readInt64 (s : String) : Except IntegerFault Int :=
  match s.toList with
  | '-' :: c :: cs => (readDigits 0x8000000000000000 .tooSmall 0 (c :: cs)).map fun n => -(n : Int)
  | _ => (readNatural 0x7fffffffffffffff s).map fun n => (n : Int)

end WindowGateway.Text
