import WindowGateway.Address.Numeric
import WindowGateway.Text.Blank

/-! The address that the gateway binds to, from the host and the port of its settings. Both are
joined into one text, which is read as an address with a port; what is no address may be a name,
which a resolver knows. -/

namespace WindowGateway.Address

/-- The addresses of each name. They come without a port, so that the one a name is looked up with
stays as it is. -/
abbrev Resolver := String → List IpAddress

/-- The resolver that knows numeric names only. -/
def numericNames : Resolver := fun name =>
  match Ipv4.ofNumericName? name with
  | some x => [.v4 x]
  | none => []

/-- Host and port as one text. A host with a colon in it is taken for an address of version 6, and
put in brackets if it is not in brackets yet. -/
def bindTarget (host : String) (port : UInt16) : String :=
  let host := Text.stripped host.toList
  let host := if host.contains ':' && host.head? != some '[' then '[' :: host ++ [']'] else host
  String.ofList (host ++ ':' :: decimal port.toNat)

/-- The parts of a text before and after its last colon. -/
def splitAtLastColon (cs : List Char) : Option (List Char × List Char) :=
  let back := cs.reverse
  match back.dropWhile (· ≠ ':') with
  | [] => none
  | _ :: before => some (before.reverse, (back.takeWhile (· ≠ ':')).reverse)

/-- The first address that a resolver has for a name with a port after it. -/
def resolve? (resolver : Resolver) (target : String) : Option SocketAddress := do
  let (name, port) ← splitAtLastColon target.toList
  let (port, rest) ← readBelow 65536 port
  if rest.isEmpty then
    let ip ← (resolver (String.ofList name)).head?
    some ⟨ip, .ofNat port⟩
  else none

def bindAddress? (resolver : Resolver) (host : String) (port : UInt16) : Option SocketAddress :=
  let target := bindTarget host port
  (SocketAddress.parse? target).or (resolve? resolver target)

/-- What is said of a host and a port that name no address. -/
def invalidMessage (host : String) (port : UInt16) : String :=
  s!"invalid bind address '{bindTarget host port}'"

end WindowGateway.Address
