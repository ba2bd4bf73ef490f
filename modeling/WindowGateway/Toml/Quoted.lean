import WindowGateway.Text.Digits

/-! Strings of TOML: on one line or on several, with escapes in double quotes and without them in
single quotes. -/

namespace WindowGateway.Toml

open Text (digitRun ofDigits)

/-- Whether a character may stand in a string or a comment: no control character but the tab. -/
def isText (c : Char) : Bool := c == '\t' || (0x20 ≤ c.toNat && c.toNat != 0x7F)

/-- The character with the code of `width` hexadecimal digits at the front. -/
def readCode (width : Nat) (cs : List Char) : Option (Char × List Char) :=
  let (ds, rest) := digitRun 16 (cs.take width)
  let n := ofDigits 16 ds
  if ds.length = width ∧ rest.isEmpty ∧ n.isValidChar then some (Char.ofNat n, cs.drop width)
  else none

/-- What an escape stands for, after its backslash. -/
def readEscape : List Char → Option (Char × List Char)
  | 'b' :: cs => some ('\x08', cs)
  | 't' :: cs => some ('\t', cs)
  | 'n' :: cs => some ('\n', cs)
  | 'f' :: cs => some ('\x0c', cs)
  | 'r' :: cs => some ('\r', cs)
  | '"' :: cs => some ('"', cs)
  | '\\' :: cs => some ('\\', cs)
  | 'u' :: cs => readCode 4 cs
  | 'U' :: cs => readCode 8 cs
  | _ => none

/-- The rest of a string on one line, up to its closing quote. -/
def readLine (quote : Char) : Nat → List Char → Option (List Char × List Char)
  | 0, _ | _, [] => none
  | fuel + 1, c :: cs =>
    if c = quote then some ([], cs)
    else if c = '\\' ∧ quote = '"' then do
      let (c, cs) ← readEscape cs
      let (s, rest) ← readLine quote fuel cs
      pure (c :: s, rest)
    else if isText c then do
      let (s, rest) ← readLine quote fuel cs
      pure (c :: s, rest)
    else none

def afterLineEnd? : List Char → Option (List Char)
  | '\n' :: cs => some cs
  | '\r' :: '\n' :: cs => some cs
  | _ => none

/-- What follows the blanks and line ends at the front; a carriage return counts only in a line
end. -/
def skipLines : Nat → List Char → List Char
  | 0, cs => cs
  | fuel + 1, cs =>
    match cs with
    | ' ' :: rest | '\t' :: rest => skipLines fuel rest
    | _ =>
      match afterLineEnd? cs with
      | some rest => skipLines fuel rest
      | none => cs

def skipBlanks (cs : List Char) : List Char := cs.dropWhile fun c => c == ' ' || c == '\t'

/-- The rest of a string on several lines, up to three closing quotes. One or two more quotes before
them belong to the string. A backslash at the end of a line takes away the blanks and line ends that
follow. -/
def readLines (quote : Char) : Nat → List Char → Option (List Char × List Char)
  | 0, _ | _, [] => none
  | fuel + 1, c :: cs =>
    if c = quote then
      let quotes := 1 + (cs.takeWhile (· = quote)).length
      let rest := cs.dropWhile (· = quote)
      if quotes < 3 then do
        let (s, rest) ← readLines quote fuel rest
        pure (List.replicate quotes quote ++ s, rest)
      else if quotes ≤ 5 then some (List.replicate (quotes - 3) quote, rest)
      else none
    else if c = '\\' ∧ quote = '"' then
      match afterLineEnd? (skipBlanks cs) with
      | some cs => readLines quote fuel (skipLines cs.length cs)
      | none => do
        let (c, cs) ← readEscape cs
        let (s, rest) ← readLines quote fuel cs
        pure (c :: s, rest)
    else match afterLineEnd? (c :: cs) with
      | some cs => do
        let (s, rest) ← readLines quote fuel cs
        pure ('\n' :: s, rest)
      | none =>
        if isText c then do
          let (s, rest) ← readLines quote fuel cs
          pure (c :: s, rest)
        else none

def readQuoted (cs : List Char) : Option (String × List Char) :=
  match cs with
  | [] => none
  | q :: rest =>
    if q = '"' ∨ q = '\'' then
      (readLine q cs.length rest).map fun (s, rest) => (String.ofList s, rest)
    else none

/-- The string at the front, on one line or on several. A line end directly after three opening
quotes is left out. -/
def readString (cs : List Char) : Option (String × List Char) :=
  match cs with
  | q :: q' :: q'' :: rest =>
    if q = q' ∧ q' = q'' ∧ (q = '"' ∨ q = '\'') then
      (readLines q cs.length ((afterLineEnd? rest).getD rest)).map fun (s, rest) =>
        (String.ofList s, rest)
    else readQuoted cs
  | _ => readQuoted cs

end WindowGateway.Toml
