import WindowGateway.Address.Ip
import WindowGateway.Client.Exchange

/-! A gateway for tests: it listens on the loopback address, at whatever port is free. Tests write
the requests that the streaming runtime would send, and read replies with no look at the content
type. -/

namespace WindowGateway

namespace Loopback

open Address (IpAddress SocketAddress)

/-- The address that such a gateway listens on. -/
def ip : IpAddress := .v4 ⟨127, 0, 0, 1⟩

/-- The address as clients name it. -/
def uri (port : UInt16) : String := "http://" ++ (SocketAddress.mk ip port).text

end Loopback

namespace Client

open Json (Document)

/-- The request for a batch in a window, of which both ends are known or neither. -/
def batchRequest (documents : List Document) (window : Option (String × String)) : Envelope :=
  let headers : Headers := OrderedMap.empty.insert Headers.contentType Framing.batch.contentType
  let headers := match window with
    | some (start, stop) =>
      (headers.insert Headers.windowStart start).insert Headers.windowEnd stop
    | none => headers
  ⟨headers, Wire.encodeCollection (documents.map Document.bytes)⟩

/-- The request with any payload and any content type. -/
def singleRequest (contentType : String) (payload : List UInt8) : Envelope :=
  ⟨OrderedMap.empty.insert Headers.contentType contentType, payload⟩

/-- The text of a fault of a payload taken as a batch. Items are not named. -/
def batchFaultText : ReplyFault → String
  | .item _ error => error.message
  | fault => fault.failure.message

end Client

end WindowGateway
