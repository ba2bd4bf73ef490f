import WindowGateway.Client.Send
import WindowGateway.Settings.Environment

/-! The settings of a sending. They come from a table of the settings file, the environment and
flags, each stronger than the one before. -/

namespace WindowGateway.Settings

open Client (SendOptions)

def sendTable : List String := ["cmds", "cli-defs"]

/-- How the names of the variables for a sending begin. -/
def sendVariables : String := "UDF_CMDS_CLI_DEFS_"

def sendLayer (flags : SendOptions) : Layer :=
  .ofList [("target", flags.target.map .text), ("input", flags.input.map .text),
    ("content_type", flags.contentType.map .text), ("window_start", flags.windowStart.map .text),
    ("window_end", flags.windowEnd.map .text)]

def optionalText : Option Setting → Option (Option String)
  | none => some none
  | some (.text s) => some (some s)
  | some _ => none

/-- The settings of a sending that is started with flags, an environment and a settings file. -/
def loadSend (flags : SendOptions) (environment : List (String × String)) (file : Option String) :
    Option SendOptions := do
  let entries ← readFile file
  let value := effective
    [.ofTable sendTable entries, .ofEnvironment sendVariables environment, sendLayer flags]
  pure
    { target := ← optionalText (value "target"),
      input := ← optionalText (value "input"),
      contentType := ← optionalText (value "content_type"),
      windowStart := ← optionalText (value "window_start"),
      windowEnd := ← optionalText (value "window_end") }

end WindowGateway.Settings
