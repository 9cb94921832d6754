import ParserTables.Command.Arguments

/-!
# Help pages

A page says what a command is for, how it is called and what its arguments mean. On a brief page
every argument has one line, and the meanings start in one column. In full, the meaning stands
below the argument, and values that have a meaning of their own are explained one by one. A page
without such values is the same in full.
-/

namespace ParserTables.Command

/-- A value that an argument admits, with what it means if that is worth a word. -/
structure Choice where
  name : String
  meaning : Option String := none

/-- An argument, or a command, on a page. -/
structure Entry where
  /-- How it is written. -/
  form : String
  meaning : String
  /-- The value that it has when it is not given. -/
  standard : Option String := none
  choices : List Choice := []

namespace Entry

/-- Whether some value is explained. -/
def isExplained (e : Entry) : Bool := e.choices.any (·.meaning.isSome)

/-- The standard value, in brackets. -/
def standardNote (e : Entry) : List String :=
  match e.standard with
  | some value => ["[default: " ++ value ++ "]"]
  | none => []

/-- The values that are admitted, in brackets. -/
def choicesNote (e : Entry) : List String :=
  if e.choices.isEmpty then []
  else ["[possible values: " ++ String.intercalate ", " (e.choices.map (·.name)) ++ "]"]

/-- The entry in one line. The meaning starts after a column of this width. -/
def briefLine (width : Nat) (e : Entry) : String :=
  let gap := String.ofList (List.replicate (width - e.form.length) ' ')
  "  " ++ e.form ++ gap ++ "  " ++
    String.intercalate " " (e.meaning :: e.standardNote ++ e.choicesNote) ++ "\n"

/-- The values that are admitted, one by one. Their meanings start in one column. -/
def choiceLines (e : Entry) : List String :=
  let width := (e.choices.map (·.name.length)).foldl max 0
  e.choices.map fun c =>
    match c.meaning with
    | some meaning =>
      "- " ++ c.name ++ ":" ++ String.ofList (List.replicate (width - c.name.length) ' ') ++ " " ++
        meaning
    | none => "- " ++ c.name

/-- The entry with its meaning below it. -/
def fullLines (e : Entry) : String :=
  let notes :=
    if e.isExplained then e.standardNote ++ "Possible values:" :: e.choiceLines
    else e.standardNote ++ e.choicesNote
  let below := e.meaning :: (if notes.isEmpty then [] else "" :: notes)
  "  " ++ e.form ++ "\n" ++ String.join (below.map fun line =>
    (if line = "" then "" else "          " ++ line) ++ "\n")

end Entry

/-- A page: what a command is for, how it is called, and its arguments under their titles. -/
structure Page where
  purpose : String
  usage : String
  groups : List (String × List Entry)

namespace Page

/-- Whether the page says more in full. -/
def isExplained (p : Page) : Bool := p.groups.any fun g => g.2.any (·.isExplained)

/-- How the command is called. -/
def usageLine (name : String) (p : Page) : String := "Usage: " ++ name ++ p.usage ++ "\n"

/-- Entries under their title. -/
def groupText (full : Bool) (g : String × List Entry) : String :=
  let width := (g.2.map (·.form.length)).foldl max 0
  "\n" ++ g.1 ++ ":\n" ++
    (if full then String.intercalate "\n" (g.2.map (·.fullLines))
    else String.join (g.2.map (·.briefLine width)))

/-- The page of a program called by this name, brief or in full. -/
def text (name : String) (full : Bool) (p : Page) : String :=
  p.purpose ++ "\n\n" ++ p.usageLine name ++
    String.join (p.groups.map (groupText (full && p.isExplained)))

end Page

/-- The path of the document. -/
def inputEntry : Entry := { form := "<INPUT>", meaning := "Path to the IR JSON document" }

/-- The form of diagnostics and reports. -/
def formatEntry : Entry where
  form := "    --output <OUTPUT>"
  meaning := "Output format for errors and reports (text or json)"
  standard := some "text"
  choices := [{ name := "text" }, { name := "json" }]

/-- The target, with what is generated for each. -/
def targetEntry : Entry where
  form := "    --target <TARGET>"
  meaning := "Target language"
  choices := [
    { name := "python"
      meaning := some "Tables and reducer lambdas for the Python runtime" },
    { name := "rust"
      meaning := some "Typed tables and a reduce dispatcher for the Rust runtime" }]

/-- The path of the generated source. -/
def outEntry : Entry where
  form := "    --out <OUT>"
  meaning := "Output file (stdout when omitted)"

/-- The path of the settings. -/
def configEntry : Entry where
  form := "    --config <CONFIG>"
  meaning := "Emitter configuration (TOML)"

/-- A run without a word. -/
def quietEntry : Entry where
  form := "    --quiet"
  meaning := "Suppress non-essential output"

/-- A run with more words. -/
def verboseEntry : Entry where
  form := "-v, --verbose..."
  meaning := "Verbosity level (-v info, -vv debug, -vvv trace)"

/-- The request for a page. -/
def helpEntry (remark : String) : Entry where
  form := "-h, --help"
  meaning := "Print help" ++ remark

/-- The request for the version. -/
def versionEntry : Entry where
  form := "-V, --version"
  meaning := "Print version"

/-- What the commands are for. -/
def commandEntries : List Entry := [
  { form := "generate", meaning := "Generate a parser from parser-table IR JSON" },
  { form := "check", meaning := "Check that IR JSON can be generated for every target" },
  { form := "help"
    meaning := "Print this message or the help of the given subcommand(s)" }]

/-- The page on a topic. Options for the program as a whole stand among those of the command. -/
def Topic.page (full : Bool) : Topic → Page
  | .program => {
      purpose := "LR parser generator backend"
      usage := " [OPTIONS] <COMMAND>"
      groups := [
        ("Commands", commandEntries),
        ("Options", [formatEntry, quietEntry, verboseEntry, helpEntry "", versionEntry])] }
  | .generate => {
      purpose := "Generate a parser from parser-table IR JSON"
      usage := " generate [OPTIONS] --target <TARGET> <INPUT>"
      groups := [
        ("Arguments", [inputEntry]),
        ("Options", [formatEntry, targetEntry, outEntry, quietEntry, configEntry, verboseEntry,
          helpEntry (if full then " (see a summary with '-h')"
            else " (see more with '--help')")])] }
  | .check => {
      purpose := "Check that IR JSON can be generated for every target"
      usage := " check [OPTIONS] <INPUT>"
      groups := [
        ("Arguments", [inputEntry]),
        ("Options", [configEntry, formatEntry, quietEntry, verboseEntry, helpEntry ""])] }
  | .help => {
      purpose := "Print this message or the help of the given subcommand(s)"
      usage := " help [COMMAND]..."
      groups := [
        ("Arguments", [
          { form := "[COMMAND]...", meaning := "Print help for the subcommand(s)" }])] }

end ParserTables.Command
