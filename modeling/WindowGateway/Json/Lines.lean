import WindowGateway.Json.Parse
import WindowGateway.Json.Render
import WindowGateway.Text.Blank
import WindowGateway.Text.Lines

/-! JSON lines: text with one document on each line. Blank lines hold none, but count when a line is
named by its number. -/

namespace WindowGateway.Json

/-- The first line that is not a document, by its number from one on. -/
structure LineFault where
  number : Nat
  error : ParseError
  deriving DecidableEq, Repr

/-- The documents of lines, the first of which has the given number. -/
def parseNumbered : Nat → List String → Except LineFault (List Document)
  | _, [] => .ok []
  | number, line :: lines =>
    if Text.allBlank line then parseNumbered (number + 1) lines
    else match Document.parseText line with
      | .error e => .error ⟨number, e⟩
      | .ok d => (parseNumbered (number + 1) lines).map (d :: ·)

def parseLines (text : String) : Except LineFault (List Document) :=
  parseNumbered 1 (Text.lines text)

end WindowGateway.Json
