/-! Why bytes are not a JSON document, and where. A reader gives up with the bytes that it has not
consumed, from which the line and the column follow. -/

namespace WindowGateway.Json

inductive Reason
  | endInValue
  | endInList
  | endInObject
  | endInString
  | expectedValue
  | expectedIdent
  | expectedColon
  | expectedListEnd
  | expectedObjectEnd
  | keyNotString
  | trailingComma
  | trailingCharacters
  | tooDeep
  | invalidNumber
  | numberOutOfRange
  | invalidEscape
  | loneSurrogate
  | unfinishedSurrogate
  | invalidCodePoint
  | controlCharacter
  deriving DecidableEq, Repr

def Reason.message : Reason → String
  | endInValue => "EOF while parsing a value"
  | endInList => "EOF while parsing a list"
  | endInObject => "EOF while parsing an object"
  | endInString => "EOF while parsing a string"
  | expectedValue => "expected value"
  | expectedIdent => "expected ident"
  | expectedColon => "expected `:`"
  | expectedListEnd => "expected `,` or `]`"
  | expectedObjectEnd => "expected `,` or `\x7d`"
  | keyNotString => "key must be a string"
  | trailingComma => "trailing comma"
  | trailingCharacters => "trailing characters"
  | tooDeep => "recursion limit exceeded"
  | invalidNumber => "invalid number"
  | numberOutOfRange => "number out of range"
  | invalidEscape => "invalid escape"
  | loneSurrogate => "lone leading surrogate in hex escape"
  | unfinishedSurrogate => "unexpected end of hex escape"
  | invalidCodePoint => "invalid unicode code point"
  | controlCharacter => "control character (\\u0000-\\u001F) found while parsing a string"

/-- A reader's failure: the bytes that follow the place of the fault, which lies `back` columns
before them. -/
structure Fault where
  reason : Reason
  rest : List UInt8
  back : Nat := 0
  deriving DecidableEq

/-- A fault at the first of the bytes, or at the end if there is none. -/
def Fault.on (reason : Reason) (s : List UInt8) : Fault := ⟨reason, s.drop 1, 0⟩

def Fault.before (reason : Reason) (s : List UInt8) : Fault := ⟨reason, s, 0⟩

/-- A fault with its line, counted from one, and its column, the number of bytes from the start of
the line up to and including the byte at fault. -/
structure ParseError where
  reason : Reason
  line : Nat
  column : Nat
  deriving DecidableEq, Repr

def ParseError.message (e : ParseError) : String :=
  s!"{e.reason.message} at line {e.line} column {e.column}"

def Fault.locate (f : Fault) (input : List UInt8) : ParseError :=
  let consumed := input.take (input.length - f.rest.length)
  let column := (consumed.reverse.takeWhile (· ≠ 0x0A)).length
  ⟨f.reason, 1 + consumed.count 0x0A, column - f.back⟩

end WindowGateway.Json
