import WindowGateway.Address.Ip
import WindowGateway.Text.Digits

/-! Reading internet addresses. A reader takes characters from the front and returns the rest. -/

namespace WindowGateway.Address

open Text (digitRun ofDigits)

/-- A number of one to three decimal digits without leading zeros, below 256. -/
def readOctet (cs : List Char) : Option (UInt8 × List Char) :=
  let (ds, rest) := digitRun 10 cs
  let n := ofDigits 10 ds
  if ds.length = 0 ∨ 3 < ds.length ∨ (1 < ds.length ∧ ds.head? = some 0) ∨ 256 ≤ n then none
  else some (.ofNat n, rest)

/-- A number of one to four hexadecimal digits. -/
def readGroup (cs : List Char) : Option (UInt16 × List Char) :=
  let (ds, rest) := digitRun 16 cs
  if ds.length = 0 ∨ 4 < ds.length then none else some (.ofNat (ofDigits 16 ds), rest)

/-- A decimal number below `limit`, with as many zeros in front as may be. -/
def readBelow (limit : Nat) (cs : List Char) : Option (Nat × List Char) :=
  let (ds, rest) := digitRun 10 cs
  let n := ofDigits 10 ds
  if ds.length = 0 ∨ limit ≤ n then none else some (n, rest)

def readChar (c : Char) : List Char → Option (List Char)
  | [] => none
  | d :: cs => if d = c then some cs else none

def readIpv4 (cs : List Char) : Option (Ipv4 × List Char) := do
  let (a, cs) ← readOctet cs
  let cs ← readChar '.' cs
  let (b, cs) ← readOctet cs
  let cs ← readChar '.' cs
  let (c, cs) ← readOctet cs
  let cs ← readChar '.' cs
  let (d, cs) ← readOctet cs
  pure (⟨a, b, c, d⟩, cs)

/-- What `read` reads, after a colon unless it comes first. -/
def readAfterColon (first : Bool) (read : List Char → Option (α × List Char)) (cs : List Char) :
    Option (α × List Char) :=
  if first then read cs else (readChar ':' cs).bind read

/-- As many groups as there are, up to `limit`, and whether the last two are written as an address
of version 4. -/
def readGroups : Nat → Bool → List Char → List UInt16 × Bool × List Char
  | 0, _, cs => ([], false, cs)
  | limit + 1, first, cs =>
    let embedded := if limit = 0 then none else readAfterColon first readIpv4 cs
    match embedded with
    | some (x, rest) => ([x.groups.1, x.groups.2], true, rest)
    | none =>
      match readAfterColon first readGroup cs with
      | none => ([], false, cs)
      | some (g, rest) =>
        let (gs, embedded, rest) := readGroups limit false rest
        (g :: gs, embedded, rest)

/-- The address with the given groups, if there are eight. -/
def Ipv6.ofGroups? (gs : List UInt16) : Option Ipv6 :=
  if h : gs.length = 8 then some ⟨gs, h⟩ else none

/-- The groups of an address of version 6, of which one run of zeros may be left out. -/
def readIpv6 (cs : List Char) : Option (Ipv6 × List Char) :=
  let (head, embedded, rest) := readGroups 8 true cs
  if head.length = 8 then (Ipv6.ofGroups? head).map (·, rest)
  else if embedded then none
  else do
    let rest ← readChar ':' rest
    let rest ← readChar ':' rest
    let (tail, _, rest) := readGroups (7 - head.length) true rest
    let zeros := List.replicate (8 - head.length - tail.length) 0
    (Ipv6.ofGroups? (head ++ zeros ++ tail)).map (·, rest)

/-- A scope after a percent sign; none is 0. -/
def readScope (cs : List Char) : UInt32 × List Char :=
  match (readChar '%' cs).bind (readBelow 0x100000000) with
  | some (n, rest) => (.ofNat n, rest)
  | none => (0, cs)

def readBracketed (cs : List Char) : Option (IpAddress × List Char) := do
  let cs ← readChar '[' cs
  let (x, cs) ← readIpv6 cs
  let (scope, cs) := readScope cs
  let cs ← readChar ']' cs
  pure (.v6 x scope, cs)

def readHost (cs : List Char) : Option (IpAddress × List Char) :=
  match readIpv4 cs with
  | some (x, rest) => some (.v4 x, rest)
  | none => readBracketed cs

def SocketAddress.parse? (s : String) : Option SocketAddress := do
  let (ip, cs) ← readHost s.toList
  let cs ← readChar ':' cs
  let (port, cs) ← readBelow 65536 cs
  if cs.isEmpty then some ⟨ip, .ofNat port⟩ else none

end WindowGateway.Address
