import WindowGateway.OrderedMap

/-! The tables of a TOML document while it is read. A table knows how it came about, because that
decides how it may be extended: one with a header of its own, one that only the headers of tables
inside it name, and one that dotted keys name. -/

namespace WindowGateway.Toml

inductive Origin
  | header
  | innerHeader
  | dottedKey
  deriving DecidableEq, Repr

/-- What stands at a key. A table in braces is complete where it stands. -/
inductive Node
  | string (s : String)
  | integer (i : Int)
  | float
  | boolean (b : Bool)
  | time
  | array (items : List Node)
  | braced (entries : List (String × Node))
  | table (origin : Origin) (entries : List (String × Node))
  | tables (elements : List (List (String × Node)))

instance : Inhabited Node := ⟨.float⟩

abbrev Entries := List (String × Node)

def Node.entries? : Node → Option Entries
  | braced es | table _ es => some es
  | _ => none

/-- Changes the table that `path` leads to from a table of the given origin, and makes the tables on
the way that are missing. A path of dotted keys does not lead through tables with a header. A path
leads into the last of several tables with one header. -/
def descend (dotted : Bool) (change : Origin → Entries → Option Entries) :
    List String → Origin → Entries → Option Entries
  | [], origin, es => change origin es
  | key :: path, _, es =>
    match es.lookup key with
    | none =>
      let origin := if dotted then Origin.dottedKey else .innerHeader
      (descend dotted change path origin []).map fun inner => es ++ [(key, .table origin inner)]
    | some (.table origin inner) =>
      if dotted ∧ origin = .header then none
      else (descend dotted change path origin inner).map fun inner =>
        setEntry key (.table origin inner) es
    | some (.tables elements) =>
      (descend dotted change path .header (elements.getLastD [])).map fun last =>
        setEntry key (.tables (elements.dropLast ++ [last])) es
    | some _ => none

/-- Sets a key that must be new. Only a table that dotted keys made can be reached by them. -/
def define (dotted : Bool) (key : String) (value : Node) (origin : Origin) (es : Entries) :
    Option Entries :=
  if (origin == .dottedKey) != dotted || (es.lookup key).isSome then none
  else some (es ++ [(key, value)])

/-- Sets what the key `key` in the table at `path` stands for; `path` are the dotted parts before
the last one. -/
def assign (path : List String) (key : String) (value : Node) (origin : Origin) (es : Entries) :
    Option Entries :=
  descend true (define (!path.isEmpty) key value) path origin es

def openTable (key : String) (_ : Origin) (es : Entries) : Option Entries :=
  match es.lookup key with
  | none => some (es ++ [(key, .table .header [])])
  | some (.table .innerHeader inner) => some (setEntry key (.table .header inner) es)
  | some _ => none

/-- Opens one more of the tables with a header in common. -/
def openElement (key : String) (_ : Origin) (es : Entries) : Option Entries :=
  match es.lookup key with
  | none => some (es ++ [(key, .tables [[]])])
  | some (.tables elements) => some (setEntry key (.tables (elements ++ [[]])) es)
  | some _ => none

end WindowGateway.Toml
