import WindowGateway.Decimal.Binary64

/-! The shortest decimal for a floating-point number: the fewest digits that read back as that
number, and of those with as few digits the nearest one. -/

namespace WindowGateway

/-- The number `digits · 10^place`. -/
structure Decimal where
  digits : Nat
  place : Int
  deriving DecidableEq, Repr

namespace Decimal

/-- `num · 10^p / den` as the fraction of two natural numbers. -/
def fraction (num den : Nat) (p : Int) : Nat × Nat :=
  match p with
  | .ofNat k => (num * Nat.pow 10 k, den)
  | .negSucc k => (num, den * Nat.pow 10 (k + 1))

/-- The exponent of the first decimal digit of the positive number `num / den`. -/
def leadingPlace (num den : Nat) : Int :=
  if den ≤ num then (Nat.toDigits 10 (num / den)).length - 1
  else
    let k := (Nat.toDigits 10 (den / num)).length
    if num * Nat.pow 10 (k - 1) = den then 1 - (k : Int) else -(k : Int)

/-- The numbers that round to `x`, with `x = 4m · 2^q`: from `low · 2^q` to `high · 2^q`, both ends
included if `closed`. -/
structure Interval where
  low : Nat
  high : Nat
  q : Int
  closed : Bool

def Interval.around (x : Binary64) : Interval :=
  let m := x.significand
  let low := if m = 0x10000000000000 ∧ -1074 < x.exponent then 4 * m - 1 else 4 * m - 2
  ⟨low, 4 * m + 2, x.exponent - 2, m % 2 == 0⟩

/-- Whether the interval holds `digits · 10^place`. -/
def Interval.holds (i : Interval) (d : Decimal) : Bool :=
  let (n, den) := fraction d.digits 1 d.place
  let (low, lowDen) := Binary64.fraction i.low 1 i.q
  let (high, highDen) := Binary64.fraction i.high 1 i.q
  if i.closed then low * den ≤ n * lowDen && n * highDen ≤ high * den
  else low * den < n * lowDen && n * highDen < high * den

/-- The multiple of `10^place` in the interval nearest to `num / den`, a tie going to the even
one. -/
def onGrid? (i : Interval) (num den : Nat) (place : Int) : Option Decimal :=
  let (n, d) := fraction num den (-place)
  let below : Decimal := ⟨n / d, place⟩
  let above : Decimal := ⟨n / d + 1, place⟩
  let nearer := if 2 * (n % d) < d ∨ (2 * (n % d) = d ∧ n / d % 2 = 0) then below else above
  let farther := if nearer = below then above else below
  if i.holds nearer then some nearer else if i.holds farther then some farther else none

/-- The same number with no zero at the end of the digits. -/
def withoutZeros : Nat → Decimal → Decimal
  | 0, d => d
  | fuel + 1, d =>
    if d.digits ≠ 0 ∧ d.digits % 10 = 0 then withoutZeros fuel ⟨d.digits / 10, d.place + 1⟩ else d

/-- The shortest decimal for a positive number. Seventeen digits are always enough. -/
def shortest (x : Binary64) : Decimal :=
  let (num, den) := Binary64.fraction x.significand 1 x.exponent
  let first := leadingPlace num den
  let found := (List.range 17).findSome? fun n : Nat =>
    onGrid? (.around x) num den (first - (n : Int))
  withoutZeros 17 (found.getD ⟨0, 0⟩)

end Decimal

end WindowGateway
