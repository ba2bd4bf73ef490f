import WindowGateway.Address.Parse

/-! Numeric host names: one to four numbers with points between them, decimal, hexadecimal after
`0x` or octal after `0`. Each but the last is a byte of an address of version 4, and the last fills
the bytes that are left. -/

namespace WindowGateway.Address

open Text (digitIn? digitRun ofDigits)

/-- The number at the front in any of the three notations, below `2^32`. It has at least one digit,
for which the zero of a prefix without digits after it counts. -/
def readAnyRadix (cs : List Char) : Option (Nat × List Char) :=
  let read (radix : Nat) (cs : List Char) : Option (Nat × List Char) :=
    let (ds, rest) := digitRun radix cs
    let n := ofDigits radix ds
    if ds.isEmpty ∨ 0x100000000 ≤ n then none else some (n, rest)
  match cs with
  | '0' :: 'x' :: c :: rest | '0' :: 'X' :: c :: rest =>
    if (digitIn? 16 c).isSome then read 16 (c :: rest) else read 8 cs
  | '0' :: _ => read 8 cs
  | _ => read 10 cs

/-- Up to `more + 1` numbers with points between them, to the end. -/
def readNumbers : Nat → List Char → Option (List Nat)
  | more, cs =>
    match readAnyRadix cs with
    | none => none
    | some (n, []) => some [n]
    | some (n, '.' :: rest) =>
      match more with
      | 0 => none
      | more + 1 => (readNumbers more rest).map (n :: ·)
    | some (_, _ :: _) => none

def Ipv4.ofNat (n : Nat) : Ipv4 :=
  ⟨.ofNat (n / 0x1000000), .ofNat (n / 65536 % 256), .ofNat (n / 256 % 256), .ofNat (n % 256)⟩

/-- The 32 bits that are `bytes` followed by the number `last` in the bytes that are left. -/
def fill (bytes : List Nat) (last : Nat) : Option Nat :=
  let room := Nat.pow 256 (4 - bytes.length)
  if bytes.all (· < 256) ∧ last < room then some (ofDigits 256 bytes * room + last) else none

/-- The address that a numeric host name stands for. -/
def Ipv4.ofNumericName? (s : String) : Option Ipv4 := do
  let numbers ← readNumbers 3 s.toList
  let last ← numbers.getLast?
  (fill numbers.dropLast last).map Ipv4.ofNat

end WindowGateway.Address
