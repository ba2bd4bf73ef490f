import WindowGateway.Udf

/-! Example payloads from which a search for inputs that break the gateway starts, and what must
hold of every payload that the search finds. -/

namespace WindowGateway.Corpus

open Json (Document Number)

def object (members : List (String × Document)) : Document := .ofMembers (.ofList members)

def text (s : String) : Document := .ofString s

def small (n : UInt8) : Document :=
  .ofNumber (.integer n.toNat ⟨by omega, by have := n.toNat_lt; omega⟩)

def true' : Document := ⟨.bool true, by simp [Json.Value.Distinct]⟩

def batch (documents : List Document) : List UInt8 :=
  Wire.encodeCollection (documents.map Document.bytes)

def teamScores : List UInt8 :=
  batch
    [object [("team", text "A"), ("score", text "3")],
     object [("team", text "A"), ("score", text "5")],
     object [("team", text "B"), ("score", small 2)]]

def authorizations : List UInt8 :=
  batch ([0, 1, 2, 3, 4, 5].map fun amount =>
    object [("card_number", text "1234"), ("amount", small amount)])

def nestedDocuments : List UInt8 :=
  batch
    [object [("team", text "C"), ("score", small 1),
      ("meta", object [("tags", .ofItems [text "x", .null, true'])])],
     .ofItems [small 1, small 2, small 3],
     text "plain string"]

def malformedItem : List UInt8 :=
  Wire.encodeCollection [Text.bytes "\x7b\"team\":\"A\",", [0xFF, 0xFE]]

/-- The files of examples with their contents, in the order of their paths. -/
def files : List (String × List UInt8) :=
  [("fuzz/corpus/authorizations.bin", authorizations),
   ("fuzz/corpus/empty.bin", batch []),
   ("fuzz/corpus/malformed_item.bin", malformedItem),
   ("fuzz/corpus/nested_documents.bin", nestedDocuments),
   ("fuzz/corpus/team_scores.bin", teamScores)]

/-- How many bytes of an input are looked at. -/
def maxInput : Nat := 64 * 1024

def survivesReencoding (payload : List UInt8) : Bool :=
  match Wire.decodeCollection payload with
  | .error _ => true
  | .ok items => (Wire.decodeCollection (Wire.encodeCollection items)).toOption == some items

def replyDecodes (payload : List UInt8) : Bool :=
  let headers := OrderedMap.empty.insert Headers.contentType Framing.batch.contentType
  match ((Udf.fraudDetection.handler 5).answer ⟨headers, payload⟩).result with
  | .ok reply => (Wire.decodeCollection reply.payload).isOk
  | .error (.error _) => true
  | .error (.panic _) => false

/-- Whether what must hold of a payload holds of an input. -/
def holds (input : List UInt8) : Bool :=
  let payload := input.take maxInput
  survivesReencoding payload && replyDecodes payload

end WindowGateway.Corpus
