/-! Nonnegative floating-point numbers of 64 bits, by exact arithmetic on natural numbers: every
operation rounds the exact result to the nearest such number, a tie to the even one. -/

namespace WindowGateway

/-- A finite nonnegative floating-point number, by its 63 bits below the sign. -/
structure Binary64 where
  bits : Nat
  finite : bits < 0x7ff0000000000000
  deriving DecidableEq

namespace Binary64

instance : Inhabited Binary64 := ⟨0, by decide⟩

/-- The integer `m` of the value `m · 2^q`. -/
def significand (x : Binary64) : Nat :=
  if x.bits < 0x10000000000000 then x.bits else 0x10000000000000 + x.bits % 0x10000000000000

def exponent (x : Binary64) : Int :=
  if x.bits < 0x10000000000000 then -1074 else (x.bits / 0x10000000000000 : Nat) - 1075

def isZero (x : Binary64) : Bool := x.bits == 0

/-- `num · 2^q / den` as the fraction of two natural numbers. -/
def fraction (num den : Nat) (q : Int) : Nat × Nat :=
  match q with
  | .ofNat k => (num <<< k, den)
  | .negSucc k => (num, den <<< (k + 1))

/-- The nearest integer to `num / den`, the even one of two. -/
def roundDiv (num den : Nat) : Nat :=
  let q := num / den
  let r := num % den
  if 2 * r < den then q else if den < 2 * r then q + 1 else q + q % 2

/-- The place of the last bit of the significand for a value near `num / den`: 53 bits, unless the
value is too small for that. -/
def lastPlace (num den : Nat) : Int :=
  let guess : Int := (num.log2 : Int) - (den.log2 : Int) - 52
  let (n, d) := fraction num den (-guess)
  max (-1074) (if n < d * 0x10000000000000 then guess - 1 else guess)

/-- The bits of the number nearest to `num / den`, without a bound above. -/
def nearestBits (num den : Nat) : Nat :=
  if num = 0 then 0
  else
    let q := lastPlace num den
    let (n, d) := fraction num den (-q)
    (q + 1074).toNat * 0x10000000000000 + roundDiv n d

/-- The number nearest to `num / den`, unless it is too large. -/
def nearest? (num den : Nat) : Option Binary64 :=
  if h : nearestBits num den < 0x7ff0000000000000 then some ⟨nearestBits num den, h⟩ else none

def mul? (x y : Binary64) : Option Binary64 :=
  let (n, d) := fraction (x.significand * y.significand) 1 (x.exponent + y.exponent)
  nearest? n d

def div? (x y : Binary64) : Option Binary64 :=
  let (n, d) := fraction x.significand y.significand (x.exponent - y.exponent)
  nearest? n d

def tenPow? (n : Nat) : Option Binary64 := nearest? (Nat.pow 10 n) 1

/-- `x · 10^n` for `n ≤ 308`, by one multiplication. -/
def scaleUp? (x : Binary64) (n : Nat) : Option Binary64 :=
  if n ≤ 308 then do x.mul? (← tenPow? n)
  else if x.isZero then some x
  else none

/-- `x / 10^n`, by one division for each `10^308` in `10^n` and one for the rest. -/
def scaleDown? (x : Binary64) (n : Nat) : Option Binary64 :=
  if n ≤ 308 then do x.div? (← tenPow? n)
  else if x.isZero then some x
  else do (← x.div? (← tenPow? 308)).scaleDown? (n - 308)
termination_by n

end Binary64

end WindowGateway
