import WindowGateway.Toml.Document

/-! Layers of settings. Each layer gives values to some names; of several layers the strongest one
that has a name decides, and only its value has to be of the right kind. -/

namespace WindowGateway.Settings

/-- A value of a setting, as far as it can be of use: text or an integer. -/
inductive Setting
  | text (s : String)
  | integer (i : Int)
  | other
  deriving DecidableEq, Repr

abbrev Layer := String → Option Setting

/-- The value of a name in layers, the weakest first. -/
def effective (layers : List Layer) (name : String) : Option Setting :=
  layers.reverse.findSome? (· name)

/-- The layer of a list of names, each with or without a value. -/
def Layer.ofList (values : List (String × Option Setting)) : Layer := fun name =>
  (values.lookup name).join

def Setting.ofNode : Toml.Node → Setting
  | .string s => text s
  | .integer i => integer i
  | _ => other

def Layer.ofEntries (es : Toml.Entries) : Layer := fun name =>
  (es.lookup name).map Setting.ofNode

/-- The table that a path leads to, if it leads to one. -/
def tableAt : List String → Toml.Entries → Option Toml.Entries
  | [], es => some es
  | key :: path, es => ((es.lookup key).bind Toml.Node.entries?).bind (tableAt path)

/-- The values in a table of a file; there are none if the path leads to no table. -/
def Layer.ofTable (path : List String) (es : Toml.Entries) : Layer :=
  .ofEntries ((tableAt path es).getD [])

/-- The tables of a settings file, if there is one that can be read. A file cannot build on another
one. -/
def readFile : Option String → Option Toml.Entries
  | none => some []
  | some text => (Toml.parse? text).filter fun es => (es.lookup "extends").isNone

def textOf : Option Setting → Option String
  | some (.text s) => some s
  | _ => none

/-- A setting that must be a natural number below `limit`. -/
def naturalOf (limit : Nat) : Option Setting → Option Nat
  | some (.integer i) => if 0 ≤ i ∧ i < limit then some i.toNat else none
  | _ => none

end WindowGateway.Settings
