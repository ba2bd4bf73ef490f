import WindowGateway.CommandLine.Gateway

/-! What the program says about itself: the pages of help, its version and its manual page. -/

namespace WindowGateway.CommandLine

/-- The name under which the program tells its version. -/
def packageName : String := "cli-defs"

def packageVersion : String := "0.1.0"

def about : String := "Shared CLI type definitions for udf-gateway build and runtime"

def subcommandHelp : List (String × String) :=
  [("send", "Send JSON documents to a running gateway and print the reply"),
    ("help", "Print this message or the help of the given subcommand(s)")]

/-- Flags with their explanations, as a page lists them. -/
def entries (c : Command α) : List (String × String) :=
  c.flags.map (fun f =>
    let suffix := match f.default with
      | some value => s!" [default: {value}]"
      | none => ""
    ("      " ++ f.form, f.help ++ suffix)) ++
  [("  -h, --help", "Print help")] ++
  (if c.hasVersion then [("  -V, --version", "Print version")] else [])

/-- Explanations on lines of their own. -/
def spaced (es : List (String × String)) : String :=
  String.join (es.map fun (label, text) => s!"{label}\n          {text}\n")

/-- Explanations in a column. -/
def aligned (es : List (String × String)) : String :=
  let width := (es.map fun (label, _) => label.length).foldl max 0
  String.join (es.map fun (label, text) =>
    let blanks := String.ofList (List.replicate (width + 2 - label.length) ' ')
    s!"{label}{blanks}{text}\n")

def subcommandAbout (name : String) : String := (subcommandHelp.lookup name).getD ""

def Page.text : Page → String
  | gateway =>
    about ++ "\n\nUsage: udf-gateway [OPTIONS] [COMMAND]\n\nCommands:\n" ++
      aligned (subcommandHelp.map fun (name, text) => ("  " ++ name, text)) ++
      "\nOptions:\n" ++ spaced (entries CommandLine.gateway)
  | send =>
    subcommandAbout "send" ++ "\n\nUsage: udf-gateway send [OPTIONS]\n\nOptions:\n" ++
      aligned (entries CommandLine.send)
  | help =>
    subcommandAbout "help" ++ "\n\nUsage: udf-gateway help [COMMAND]...\n\nArguments:\n" ++
      aligned [("  [COMMAND]...", "Print help for the subcommand(s)")]

/-- What the program says to arguments that it does not carry out. -/
def UsageError.message : UsageError → String
  | help page => page.text
  | version => s!"{packageName} {packageVersion}\n"
  | e => "error: " ++ e.faultLine

/-! ### The manual page -/

/-- Text of a manual page, in which a dash is escaped. -/
def roff (s : String) : String :=
  String.ofList (s.toList.flatMap fun c => if c = '-' then ['\\', '-'] else [c])

def bold (s : String) : String := "\\fB" ++ roff s ++ "\\fR"

def italic (s : String) : String := "\\fI" ++ roff s ++ "\\fR"

def item (label text : String) : String := ".TP\n" ++ label ++ "\n" ++ text ++ "\n"

def pageSection (title body : String) : String := ".SH " ++ title ++ "\n" ++ body

def valueName (f : Flag α) : String := String.ofList (f.form.toList.drop (f.name.length + 3))

/-- The flags of the program and their short forms. -/
def plainFlags : List (String × String × String) :=
  [("-h", "--help", "Print help"), ("-V", "--version", "Print version")]

def synopsis : String :=
  bold packageName ++ String.join (gateway.flags.map fun f => " [" ++ bold s!"--{f.name}" ++ "]") ++
    String.join (plainFlags.map fun (short, long, _) =>
      " [" ++ bold short ++ "|" ++ bold long ++ "]") ++
    " [" ++ italic "subcommands" ++ "]\n"

def flagItem (f : Flag α) : String :=
  let value := match f.default with
    | some value => " [default: " ++ roff value ++ "]"
    | none => ""
  item (bold s!"--{f.name}" ++ " " ++ italic (valueName f) ++ value) (roff f.help)

def manualPage : String :=
  ".ie \\n(.g .ds Aq \\(aq\n.el .ds Aq '\n" ++
    s!".TH {packageName} 1  \"{packageName} {packageVersion}\" \n" ++
    pageSection "NAME" (roff packageName ++ " \\- " ++ roff about ++ "\n") ++
    pageSection "SYNOPSIS" synopsis ++
    pageSection "DESCRIPTION" (roff about ++ "\n") ++
    pageSection "OPTIONS"
      (String.join (gateway.flags.map flagItem) ++
        String.join (plainFlags.map fun (short, long, text) =>
          item (bold short ++ ", " ++ bold long) text)) ++
    pageSection "SUBCOMMANDS"
      (String.join (subcommandHelp.map fun (name, text) =>
        item (roff s!"{packageName}-{name}(1)") text)) ++
    pageSection "VERSION" s!"v{packageVersion}\n"

end WindowGateway.CommandLine
