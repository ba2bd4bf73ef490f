import WindowGateway.Settings.Layer
import WindowGateway.Text.Blank
import WindowGateway.Text.Integer

/-! Settings from environment variables. The name of a variable is a fixed beginning and the name of
the setting, in whatever case; two underscores, like a point, lead into the setting. The value is
read as a truth value, a number, a quoted text, a list or a table if it is one, and otherwise taken
as it is. -/

namespace WindowGateway.Settings

/-- Whether a character separates the values of a list or a table. -/
def separates (c : Char) : Bool :=
  c == ',' || c == '[' || c == ']' || c == '\x7b' || c == '\x7d'

/-- What follows the ASCII blanks at the front. -/
def skipAsciiBlanks (cs : List Char) : List Char :=
  cs.dropWhile fun c => c == ' ' || ('\t' ≤ c && c ≤ '\r' && c != '\x0b')

/-- Whether a word is a decimal number in positional or scientific notation: digits before or after
the point, or both. -/
def isDecimal (cs : List Char) : Bool :=
  let (_, cs) := Toml.splitSign cs
  let (whole, rest) := Text.digitRun 10 cs
  let (fraction, rest) := match rest with
    | '.' :: rest => Text.digitRun 10 rest
    | rest => ([], rest)
  let power := match rest with
    | [] => true
    | e :: rest =>
      (e == 'e' || e == 'E') && match Text.digitRun 10 (Toml.splitSign rest).2 with
        | (_ :: _, []) => true
        | _ => false
  !(whole.isEmpty && fraction.isEmpty) && power

def wordSetting (word : String) : Setting :=
  if word.toList.contains '.' && isDecimal word.toList then .other
  else match Text.readNatural 0xffffffffffffffff word with
    | .ok n => .integer n
    | .error _ =>
      match Text.readInt64 word with
      | .ok i => .integer i
      | .error _ => .text word

/-- What follows the given characters at the front. -/
def afterWord? (word cs : List Char) : Option (List Char) :=
  if word.isPrefixOf cs then some (cs.drop word.length) else none

/-- The rest of a list or a table after its bracket, up to `close`. -/
def readElements (element : List Char → Option (List Char)) (close : Char) :
    Nat → List Char → Option (List Char)
  | 0, _ => none
  | fuel + 1, cs =>
    match cs with
    | [] => none
    | c :: rest =>
      if c = close then some rest
      else match element cs with
        | none | some [] => none
        | some (c :: rest) =>
          if c = ',' then readElements element close fuel rest
          else if c = close then some rest
          else none

/-- What follows the key of a table's entry and its equals sign. -/
def afterKey? (cs : List Char) : Option (List Char) :=
  let cs := skipAsciiBlanks cs
  let bare := cs.takeWhile Toml.isBare
  let rest := match cs with
    | '"' :: rest => (Toml.readLine '"' cs.length rest).map Prod.snd
    | _ => if bare.isEmpty then none else some (cs.drop bare.length)
  match rest.map skipAsciiBlanks with
  | some ('=' :: rest) => some rest
  | _ => none

/-- The value at the front, and what follows it and the blanks after it. Lists and tables nest at
most `levels` deep. -/
def readVariableValue : Nat → List Char → Option (Setting × List Char)
  | levels, cs =>
    let cs := skipAsciiBlanks cs
    let read : Option (Setting × List Char) :=
      match afterWord? ['t', 'r', 'u', 'e'] cs, afterWord? ['f', 'a', 'l', 's', 'e'] cs with
      | some rest, _ | none, some rest => some (.other, rest)
      | none, none =>
        match levels, cs with
        | levels + 1, '[' :: rest =>
          let element cs := (readVariableValue levels cs).map Prod.snd
          (readElements element ']' (rest.length + 1) rest).map (.other, ·)
        | levels + 1, '\x7b' :: rest =>
          let element cs := (afterKey? cs).bind fun cs =>
            (readVariableValue levels cs).map Prod.snd
          (readElements element '\x7d' (rest.length + 1) rest).map (.other, ·)
        | _, '"' :: rest =>
          (Toml.readLine '"' cs.length rest).map fun (s, rest) => (.text (String.ofList s), rest)
        | _, '\'' :: c :: '\'' :: rest => some (.text (String.ofList [c]), rest)
        | _, '\'' :: _ => none
        | _, _ =>
          let word := Text.trim (String.ofList (cs.takeWhile (!separates ·)))
          some (wordSetting word, cs.dropWhile (!separates ·))
    read.map fun (v, rest) => (v, skipAsciiBlanks rest)

/-- Whether a text is a list of words with commas between them. -/
def isWordList (s : String) : Bool :=
  s.toList.contains ',' && match s.toList.head? with
    | some c => c != '[' && c != '\x7b' && c != '"' && c != '\''
    | none => true

def variableSetting (value : String) : Setting :=
  let value := Text.trim value
  if isWordList value then .other
  else match readVariableValue value.length value.toList with
    | some (v, []) => v
    | _ => .text value

/-- The characters with two underscores replaced by a point. -/
def pointed : List Char → List Char
  | '_' :: '_' :: cs => '.' :: pointed cs
  | c :: cs => c :: pointed cs
  | [] => []

def parts : List Char → List (List Char)
  | [] => [[]]
  | '.' :: cs => [] :: parts cs
  | c :: cs =>
    match parts cs with
    | [] => [[c]]
    | p :: ps => (c :: p) :: ps

/-- The path that a variable's name leads to, if it has the given beginning. -/
def variablePath? (start name : String) : Option (List String) :=
  let name := name.toList.map Char.toLower
  match afterWord? (start.toList.map Char.toLower) name with
  | none => none
  | some rest => some (((parts (pointed rest)).takeWhile (!·.isEmpty)).map String.ofList)

def variableValue? (start : String) (entry : String × String) : Option (String × Setting) :=
  match variablePath? start entry.1 with
  | none | some [] => none
  | some [name] => some (name, variableSetting entry.2)
  | some (name :: _ :: _) => some (name, .other)

/-- The values that the variables with the given beginning give. -/
def Layer.ofEnvironment (start : String) (entries : List (String × String)) : Layer := fun name =>
  ((entries.filterMap (variableValue? start)).reverse).lookup name

end WindowGateway.Settings
