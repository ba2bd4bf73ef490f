/-! Variable-length integers: seven bits a byte, the lowest first, and the high bit set in every
byte but the last. A number below `2^64` takes at most ten bytes. -/

namespace WindowGateway.Wire

/-- The bytes of a number, as few as possible. -/
def writeVarint (n : Nat) : List UInt8 :=
  if n < 0x80 then [.ofNat n] else .ofNat (0x80 + n % 0x80) :: writeVarint (n / 0x80)
termination_by n

/-- The number at the front, of at most `limit` bytes, the last of which may be the tenth only if it
is 0 or 1; and the bytes after it. -/
def readVarintUpTo : Nat → List UInt8 → Option (Nat × List UInt8)
  | 0, _ => none
  | _ + 1, [] => none
  | limit + 1, b :: s =>
    if b < 0x80 then if limit = 0 ∧ 1 < b then none else some (b.toNat, s)
    else match readVarintUpTo limit s with
      | none => none
      | some (n, s) => some (b.toNat - 0x80 + 0x80 * n, s)

/-- The number at the front, with any number of bytes up to ten, and the bytes after it. -/
def readVarint? (s : List UInt8) : Option (Nat × List UInt8) := readVarintUpTo 10 s

end WindowGateway.Wire
