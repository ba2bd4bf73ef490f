import WindowGateway.Text.Shown

/-! Quoted text for messages: what a reader cannot see is written as an escape, so that the quoted
form shows exactly which characters the text has. -/

namespace WindowGateway.Text

def hexDigits (n : Nat) : List Char := Nat.toDigits 16 n

/-- A character inside double quotes. -/
def quoteChar (c : Char) : List Char :=
  if c = '"' ∨ c = '\\' then ['\\', c]
  else if c = '\x00' then ['\\', '0']
  else if c = '\t' then ['\\', 't']
  else if c = '\r' then ['\\', 'r']
  else if c = '\n' then ['\\', 'n']
  else if ' ' ≤ c ∧ c ≤ '~' then [c]
  else if isShown c then [c]
  else '\\' :: 'u' :: '\x7b' :: hexDigits c.toNat ++ ['\x7d']

def quoted (s : String) : String :=
  String.ofList ('"' :: s.toList.flatMap quoteChar ++ ['"'])

/-- An optional text, with its quotes when it is there. -/
def quotedOption : Option String → String
  | none => "None"
  | some s => s!"Some({quoted s})"

end WindowGateway.Text
