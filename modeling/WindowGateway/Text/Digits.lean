/-! Digits of any radix up to 16, and the numbers they denote. -/

namespace WindowGateway.Text

/-- The value of a digit of the given radix; letters may be of either case. -/
def digitIn? (radix : Nat) (c : Char) : Option Nat :=
  let value :=
    if '0' ≤ c ∧ c ≤ '9' then c.toNat - '0'.toNat
    else if 'a' ≤ c ∧ c ≤ 'f' then c.toNat - 'a'.toNat + 10
    else if 'A' ≤ c ∧ c ≤ 'F' then c.toNat - 'A'.toNat + 10
    else radix
  if value < radix then some value else none

/-- The values of the digits at the front, and the rest. -/
def digitRun (radix : Nat) : List Char → List Nat × List Char
  | [] => ([], [])
  | c :: cs =>
    match digitIn? radix c with
    | none => ([], c :: cs)
    | some d =>
      let (ds, rest) := digitRun radix cs
      (d :: ds, rest)

def ofDigits (radix : Nat) (ds : List Nat) : Nat := ds.foldl (fun n d => radix * n + d) 0

end WindowGateway.Text
