import WindowGateway.Wire.Field

/-! Payload collections: the framing of a batch. Every item is one field with number 1, in order;
nothing is said about what an item holds. -/

namespace WindowGateway.Wire

def encodeCollection (items : List (List UInt8)) : List UInt8 :=
  items.flatMap (writeDelimited 1)

/-- Reads at most `fuel` fields; `done` holds the items so far, the last one first. -/
def decodeItems : Nat → List (List UInt8) → List UInt8 → Except DecodeError (List (List UInt8))
  | _, done, [] => .ok done.reverse
  | 0, _, _ :: _ => .error ⟨none, .invalidVarint⟩
  | fuel + 1, done, s@(_ :: _) =>
    match outside (readKey s) with
    | .error e => .error e
    | .ok (key, s) =>
      if key.field = 1 then
        match inField "GrpcPayloadCollection.payload" (readDelimited key.wireType s) with
        | .error e => .error e
        | .ok (item, s) => decodeItems fuel (item :: done) s
      else
        match outside (skipField maxLevels key s) with
        | .error e => .error e
        | .ok s => decodeItems fuel done s

/-- The items of a collection, in order. -/
def decodeCollection (s : List UInt8) : Except DecodeError (List (List UInt8)) :=
  decodeItems s.length [] s

end WindowGateway.Wire
