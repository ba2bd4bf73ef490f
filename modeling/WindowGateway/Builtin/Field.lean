import WindowGateway.Json.Render
import WindowGateway.Text.Blank
import WindowGateway.Text.Integer

/-! Fields of documents, read as integers and as keys. Integers may come as numbers or as text, and
keys as text or as numbers. -/

namespace WindowGateway.Builtin

open Json (Document)

inductive FieldFault
  | missing (field : String)
  | notInteger (field : String) (value : Document)
  | notKey (field : String) (value : Document)
  | overflow (field : String)

def FieldFault.message : FieldFault → String
  | missing field => s!"missing field '{field}'"
  | notInteger field value => s!"field '{field}' is not an integer: {value.render}"
  | notKey field value => s!"field '{field}' cannot be used as a key: {value.render}"
  | overflow field => s!"'{field}' overflowed"

/-- The integer of 64 bits that a document is, or that its text denotes; blanks around the text play
no part. -/
def integer? (d : Document) : Option Int :=
  match d.value with
  | .number n => n.int64?
  | .string s => (Text.readInt64 (Text.trim s)).toOption
  | _ => none

def integerField (item : Document) (field : String) : Except FieldFault Int :=
  match item.field? field with
  | none => .error (.missing field)
  | some value =>
    match integer? value with
    | some n => .ok n
    | none => .error (.notInteger field value)

/-- The field of an object as a key: text as it is, and a number as its compact text. -/
def keyField (item : Document) (field : String) : Except FieldFault String :=
  match item.field? field with
  | none => .error (.missing field)
  | some value =>
    match value.value with
    | .string s => .ok s
    | .number n => .ok (String.ofList n.chars)
    | _ => .error (.notKey field value)

end WindowGateway.Builtin
