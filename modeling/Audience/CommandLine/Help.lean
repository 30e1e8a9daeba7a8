import Audience.CommandLine.Arguments

namespace Audience

/-! Explanations of the program and its commands.

What an option is for stands behind it in a column.  Where the names leave too little room, it
stands below the option instead.
-/

namespace CommandLine

def programName : String := "chooser-server"

def configVariable : String := "CHOOSER_SERVER_CONFIG"

end CommandLine

namespace Help

open Arguments

/-- The number of characters in a line. -/
def lineWidth : Nat := 100

/-- What is explained, and what there is to say about it. -/
structure Entry where
  label : String
  purpose : String
  /-- What is said at the end in brackets. -/
  remark : String
deriving Repr, DecidableEq

def spaces (count : Nat) : String := String.ofList (List.replicate count ' ')

def Entry.description (entry : Entry) : String :=
  if entry.remark == "" then entry.purpose else entry.purpose ++ " " ++ entry.remark

def longest (entries : List Entry) : Nat :=
  (entries.map fun entry => entry.label.length).foldl max 0

/-- Whether labels take more than two fifths of a line, and some description does not fit behind
them. -/
def isCrowded (entries : List Entry) : Bool :=
  let taken := longest entries + 12
  decide (lineWidth * 2 < taken * 5) && entries.any fun entry =>
    decide (lineWidth < taken + entry.purpose.length + entry.remark.length)

def column (entries : List Entry) : List String :=
  entries.map fun entry =>
    "  " ++ entry.label ++ spaces (longest entries - entry.label.length) ++ "  " ++
      entry.description

def block (title : String) (entries : List Entry) : List String :=
  let lines :=
    if isCrowded entries then
      entries.flatMap fun entry => ["  " ++ entry.label, spaces 10 ++ entry.description]
    else column entries
  ["", title ++ ":"] ++ lines

def about : Level → String
  | .program => "UI content chooser server"
  | .version => "Show version and build information"
  | .check => "Load the content file once and validate every rule value"
  | .query => "Assemble UI content for one caller and print it"
  | .validateRule => "Check a rule value against a rule type"
  | .serve => "Answer JSON-lines queries on stdin (default)"

def aboutHelp : String := "Print this message or the help of the given subcommand(s)"

/-- An option as it is written, with a name for its value. -/
def written (setting : Setting) : String :=
  let value := setting.name.toList.map fun c => if c = '-' then '_' else c.toUpper
  "--" ++ setting.name ++ " <" ++ String.ofList value ++ ">"

def usage (level : Level) : String :=
  let required := level.settings.filter (·.isRequired)
  let words := match level with
    | .program => ["[OPTIONS]", "[COMMAND]"]
    | command => command.name :: "[OPTIONS]" :: required.map written
  "Usage: " ++ " ".intercalate (CommandLine.programName :: words)

/-- The options of a level.  The variable that stands in for one is shown with its value. -/
def optionEntries (level : Level) (fallback : Option String) : List Entry :=
  let settings := level.settings.map fun setting =>
    let remark :=
      if setting.name == "config" then
        "[env: " ++ CommandLine.configVariable ++ "=" ++ fallback.getD "" ++ "]"
      else ""
    ⟨"    " ++ written setting, setting.purpose, remark⟩
  let version :=
    if level = .program then [⟨"-V, --version", "Print version", ""⟩] else []
  settings ++ ⟨"-h, --help", "Print help", ""⟩ :: version

def commandEntries : List Entry :=
  (Level.commands.map fun command => ⟨command.name, about command, ""⟩) ++
    [⟨"help", aboutHelp, ""⟩]

def lines (topic : Topic) (fallback : Option String) : List String :=
  match topic with
  | .help =>
      [aboutHelp, "", "Usage: " ++ CommandLine.programName ++ " help [COMMAND]..."] ++
        block "Arguments" [⟨"[COMMAND]...", "Print help for the subcommand(s)", ""⟩]
  | .level level =>
      [about level, "", usage level] ++
        (if level = .program then block "Commands" commandEntries else []) ++
        block "Options" (optionEntries level fallback)

/-- The explanation of a topic. -/
def text (topic : Topic) (fallback : Option String) : String :=
  "\n".intercalate (lines topic fallback)

end Help

end Audience
