/-! Percent encoding: a percent sign and two hexadecimal digits stand for one byte. -/

namespace WindowGateway.Text

/-- The value of a hexadecimal digit of either case. -/
def hexValue? (b : UInt8) : Option UInt8 :=
  if 0x30 ≤ b ∧ b ≤ 0x39 then some (b - 0x30)
  else if 0x41 ≤ b ∧ b ≤ 0x46 then some (b - 0x37)
  else if 0x61 ≤ b ∧ b ≤ 0x66 then some (b - 0x57)
  else none

/-- The bytes with each escape replaced, from left to right and once; a percent sign that starts no
escape stays. -/
def percentDecode : List UInt8 → List UInt8
  | 0x25 :: h :: l :: rest =>
    match hexValue? h, hexValue? l with
    | some h, some l => (16 * h + l) :: percentDecode rest
    | _, _ => 0x25 :: percentDecode (h :: l :: rest)
  | b :: rest => b :: percentDecode rest
  | [] => []

example : percentDecode [0x25, 0x34, 0x31, 0x25, 0x25, 0x36, 0x31] = [0x41, 0x25, 0x61] := by
  decide

end WindowGateway.Text
