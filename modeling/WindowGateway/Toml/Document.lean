import WindowGateway.Toml.Quoted
import WindowGateway.Toml.Scalar

/-! TOML documents: lines that set keys or open tables. A document is either read as a whole or not
at all; a key that is set twice, and a table that is opened twice, make it none. -/

namespace WindowGateway.Toml

/-- Whether a character may stand in a key without quotes. -/
def isBare (c : Char) : Bool := c.isAlphanum || c == '_' || c == '-'

def readKeyPart (cs : List Char) : Option (String × List Char) :=
  let bare := cs.takeWhile isBare
  if bare.isEmpty then readQuoted cs else some (String.ofList bare, cs.dropWhile isBare)

/-- How many parts a key may have, and how deep values may nest. -/
def maxDepth : Nat := 79

/-- The parts of a key, with points between them, up to `limit`. -/
def readKeyParts : Nat → List Char → Option (List String × List Char)
  | 0, _ => none
  | limit + 1, cs => do
    let (part, rest) ← readKeyPart cs
    match skipBlanks rest with
    | '.' :: rest =>
      let (parts, rest) ← readKeyParts limit (skipBlanks rest)
      pure (part :: parts, rest)
    | rest => pure ([part], rest)

/-- A key at the front, as the parts before the last one and the last one, and what follows it and
the blanks after it. -/
def readKey (cs : List Char) : Option ((List String × String) × List Char) := do
  let (parts, rest) ← readKeyParts maxDepth cs
  let last ← parts.getLast?
  pure ((parts.dropLast, last), rest)

/-- What follows a comment at the front, from the end of its line on. -/
def skipComment (cs : List Char) : Option (List Char) :=
  match cs with
  | '#' :: rest =>
    match rest.dropWhile isText with
    | [] => some []
    | rest => (afterLineEnd? rest).map fun _ => rest
  | _ => some cs

/-- What follows the blanks, line ends and comments at the front. -/
def skipBetween : Nat → List Char → Option (List Char)
  | 0, cs => some cs
  | fuel + 1, cs => do
    let cs ← skipComment (skipBlanks cs)
    match afterLineEnd? cs with
    | some cs => skipBetween fuel cs
    | none => some cs

abbrev Reader (α : Type) := List Char → Option (α × List Char)

/-- The rest of an array after its bracket; `done` holds the items so far, the last one first. -/
def readItems (item : Reader Node) : Nat → List Node → Reader Node
  | 0, _, _ => none
  | fuel + 1, done, cs => do
    match ← skipBetween cs.length cs with
    | ']' :: rest => pure (.array done.reverse, rest)
    | cs =>
      let (v, rest) ← item cs
      match ← skipBetween rest.length rest with
      | ',' :: rest => readItems item fuel (v :: done) rest
      | ']' :: rest => pure (.array (v :: done).reverse, rest)
      | _ => none

def readPair (item : Reader Node) (cs : List Char) :
    Option (((List String × String) × Node) × List Char) := do
  let (key, rest) ← readKey cs
  match rest with
  | '=' :: rest =>
    let (v, rest) ← item (skipBlanks rest)
    pure ((key, v), rest)
  | _ => none

/-- The rest of a table in braces, from a pair on. -/
def readPairs (item : Reader Node) : Nat → Entries → Reader Node
  | 0, _, _ => none
  | fuel + 1, es, cs => do
    let (((path, key), v), rest) ← readPair item (skipBlanks cs)
    let es ← assign path key v .header es
    match skipBlanks rest with
    | ',' :: rest => readPairs item fuel es rest
    | '\x7d' :: rest => pure (.braced es, rest)
    | _ => none

def readBraced (item : Reader Node) (cs : List Char) : Option (Node × List Char) :=
  match skipBlanks cs with
  | '\x7d' :: rest => some (.braced [], rest)
  | cs => readPairs item cs.length [] cs

/-- The value at the front; arrays and tables in braces nest at most `levels` deep. -/
def readValue : Nat → List Char → Option (Node × List Char)
  | levels, cs =>
    match cs with
    | [] => none
    | '[' :: rest =>
      match levels with
      | 0 => none
      | levels + 1 => readItems (readValue levels) (rest.length + 1) [] rest
    | '\x7b' :: rest =>
      match levels with
      | 0 => none
      | levels + 1 => readBraced (readValue levels) rest
    | c :: _ =>
      if c = '"' ∨ c = '\'' then (readString cs).map fun (s, rest) => (.string s, rest)
      else readScalar cs

/-- The header of a table at the front, after its first bracket: the key, whether the table is one
of several, and what follows. -/
def readHeader (cs : List Char) : Option ((List String × String) × Bool × List Char) :=
  match cs with
  | '[' :: rest => do
    let (key, rest) ← readKey (skipBlanks rest)
    match rest with
    | ']' :: ']' :: rest => pure (key, true, rest)
    | _ => none
  | _ => do
    let (key, rest) ← readKey (skipBlanks cs)
    match rest with
    | ']' :: rest => pure (key, false, rest)
    | _ => none

/-- What follows the end of a line, which may have a comment on it. -/
def readLineEnd (cs : List Char) : Option (List Char) := do
  match ← skipComment (skipBlanks cs) with
  | [] => some []
  | cs => afterLineEnd? cs

/-- Reads at most `fuel` lines into the root table; `current` leads to the open table. -/
def readBody : Nat → List String → Entries → List Char → Option Entries
  | 0, _, _, _ => none
  | fuel + 1, current, root, cs =>
    match skipBlanks cs with
    | [] => some root
    | '[' :: rest => do
      let ((path, key), several, rest) ← readHeader rest
      let change := if several then openElement key else openTable key
      let root ← descend false change path .header root
      readBody fuel (path ++ [key]) root (← readLineEnd rest)
    | c :: rest =>
      if c = '#' ∨ c = '\n' ∨ c = '\r' then do
        readBody fuel current root (← readLineEnd (c :: rest))
      else do
        let (((path, key), v), rest) ← readPair (readValue maxDepth) (c :: rest)
        let root ← descend false (assign path key v) current .header root
        readBody fuel current root (← readLineEnd rest)

/-- The entries of a document. A mark of the byte order may stand before it. -/
def parse? (s : String) : Option Entries :=
  let cs := match s.toList with
    | '\uFEFF' :: cs => cs
    | cs => cs
  readBody (cs.length + 1) [] [] cs

end WindowGateway.Toml
