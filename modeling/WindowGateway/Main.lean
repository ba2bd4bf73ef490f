import WindowGateway.Program

/-! The program. It has no network: it resolves its settings and reads its input, and then finds no
address to bind and no gateway to talk to. -/

namespace WindowGateway.Main

/-- The variables that the program looks at. -/
def settingNames : List String :=
  ["UDF_HOST", "UDF_PORT", "UDF_UDF", "UDF_FRAUD_THRESHOLD"] ++
    ["TARGET", "INPUT", "CONTENT_TYPE", "WINDOW_START", "WINDOW_END"].map
      (Settings.sendVariables ++ ·)

/-- The variables that are set. -/
def readEnvironment : IO (List (String × String)) := do
  let values ← settingNames.mapM fun name => do pure (name, ← IO.getEnv name)
  pure (values.filterMap fun (name, value) => value.map (name, ·))

/-- The text of a file, if there is one. -/
def readText? (path : String) : IO (Option String) := do
  match ← (IO.FS.readFile path).toBaseIO with
  | .ok text => pure (some text)
  | .error _ => pure none

/-- The file that a sending reads, if it names one. -/
def inputPath? (start : Program.Start) : Option String := do
  let flags ← (← (Program.resolve start).toOption).send
  (← Settings.loadSend flags start.environment start.settingsFile).input

/-- The world of the program: the file that it asks for, or standard input. -/
def readWorld (start : Program.Start) : IO Program.World := do
  match inputPath? start with
  | some path =>
    match ← readText? path with
    | some text => pure { fileText := fun _ => .ok text }
    | none => pure {}
  | none =>
    match (Program.resolve start).toOption.bind Program.Resolved.send with
    | some _ =>
      match ← (do (← IO.getStdin).readToEnd : IO String).toBaseIO with
      | .ok text => pure { standardInput := .ok text }
      | .error e => pure { standardInput := .error e.toString }
    | none => pure {}

end WindowGateway.Main

open WindowGateway Main

def main (args : List String) : IO UInt32 := do
  let start : Program.Start :=
    { arguments := args, environment := ← readEnvironment, settingsFile := ← readText? ".udf.toml" }
  match Program.run (← readWorld start) start with
  | .ok (.printed documents) =>
    documents.forM fun d => IO.println d.render
    pure 0
  | .ok (.serving g) =>
    IO.eprint (Failure.report ⟨"failed to bind " ++ g.address.text, []⟩)
    pure 1
  | .error f =>
    IO.eprint f.report
    pure 1
