/-! Internet addresses of both versions, and their texts. The text of a version 6 address leaves out
its first longest run of two or more groups of zeros. -/

namespace WindowGateway.Address

/-- An address of version 4, by its bytes. -/
structure Ipv4 where
  a : UInt8
  b : UInt8
  c : UInt8
  d : UInt8
  deriving DecidableEq, Repr

/-- An address of version 6, by its eight groups of 16 bits. -/
structure Ipv6 where
  groups : List UInt16
  eight : groups.length = 8
  deriving DecidableEq, Repr

/-- An address; one of version 6 may belong to a scope, and 0 stands for none. -/
inductive IpAddress
  | v4 (address : Ipv4)
  | v6 (address : Ipv6) (scope : UInt32)
  deriving DecidableEq, Repr

structure SocketAddress where
  ip : IpAddress
  port : UInt16
  deriving DecidableEq, Repr

def decimal (n : Nat) : List Char := Nat.toDigits 10 n

/-- The four bytes in decimal, with points between them. -/
def Ipv4.chars (x : Ipv4) : List Char :=
  decimal x.a.toNat ++ '.' :: decimal x.b.toNat ++ '.' :: decimal x.c.toNat ++
    '.' :: decimal x.d.toNat

/-- Groups in hexadecimal, with colons between them. -/
def groupChars : List UInt16 → List Char
  | [] => []
  | [g] => Nat.toDigits 16 g.toNat
  | g :: gs => Nat.toDigits 16 g.toNat ++ ':' :: groupChars gs

def leadingZeros (gs : List UInt16) : Nat := (gs.takeWhile (· = 0)).length

/-- The start and the length of the first longest run of zeros among `gs`, whose first group has the
given index, unless `best` is as long. -/
def longestRun (best : Nat × Nat) (index : Nat) : List UInt16 → Nat × Nat
  | [] => best
  | g :: gs =>
    let n := leadingZeros (g :: gs)
    longestRun (if best.2 < n then (index, n) else best) (index + 1) gs

/-- The bytes of an address of version 4 inside one of version 6. -/
def Ipv4.ofGroups (hi lo : UInt16) : Ipv4 :=
  ⟨.ofNat (hi.toNat / 256), .ofNat (hi.toNat % 256), .ofNat (lo.toNat / 256),
    .ofNat (lo.toNat % 256)⟩

/-- The groups that stand for an address of version 4 inside one of version 6. -/
def Ipv4.groups (x : Ipv4) : UInt16 × UInt16 :=
  (.ofNat (256 * x.a.toNat + x.b.toNat), .ofNat (256 * x.c.toNat + x.d.toNat))

/-- The text of an address of version 6. One that stands for an address of version 4 shows that. -/
def Ipv6.chars (x : Ipv6) : List Char :=
  match x.groups with
  | [0, 0, 0, 0, 0, 0xFFFF, hi, lo] =>
    [':', ':', 'f', 'f', 'f', 'f', ':'] ++ (Ipv4.ofGroups hi lo).chars
  | gs =>
    let (start, length) := longestRun (0, 0) 0 gs
    if 1 < length then
      groupChars (gs.take start) ++ ':' :: ':' :: groupChars (gs.drop (start + length))
    else groupChars gs

/-- The address as it stands before a port: one of version 6 in brackets, with its scope. -/
def IpAddress.hostChars : IpAddress → List Char
  | v4 x => x.chars
  | v6 x scope =>
    '[' :: x.chars ++ (if scope = 0 then [] else '%' :: decimal scope.toNat) ++ [']']

def IpAddress.hostText (x : IpAddress) : String := String.ofList x.hostChars

def SocketAddress.text (x : SocketAddress) : String :=
  String.ofList (x.ip.hostChars ++ ':' :: decimal x.port.toNat)

end WindowGateway.Address
