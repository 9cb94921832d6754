import ParserTables.Command.Arguments
import ParserTables.Command.Files
import ParserTables.Command.Help
import ParserTables.Document.Loading
import ParserTables.Settings.Configuration

/-!
# Running a command

A run ends with an exit code and puts texts on the two streams. Files are only touched when
everything that can go wrong before has gone well. A quiet run has the same exit code and writes
the same files, without a word on the error stream.

A stream may refuse what is put on it. Source that the output stream does not take is a failure
like any other one. A report or a diagnostic that is not taken breaks the run off.
-/

namespace ParserTables.Command

open ParserTables.Json (Tree)

/-- How a run ends: the exit code, and what it has put on the streams. -/
structure Outcome where
  code : Nat
  output : String := ""
  diagnostics : String := ""
deriving DecidableEq

/-- The name of the program and its version. -/
def versionText : String := "lrgen 0.1.0\n"

/-- A line for a diagnostic, in the format of the run. -/
def diagnosticLine (format : Format) (message : String) : String :=
  match format with
  | .text => message ++ "\n"
  | .json => (Tree.object [("error", .text message)]).write ++ "\n"

/-- The end of a run that failed. -/
def failed (i : Invocation) (message : String) : Outcome :=
  { code := 1, diagnostics := if i.quiet then "" else diagnosticLine i.format message }

/-- The exit code of a run that is broken off. -/
def brokenOff : Nat := 101

/-- What is read before any work: the document and the settings. The document comes first. -/
structure Inputs where
  document : Automaton
  settings : Settings

/-- The document in a file that was read from a path, or a message. -/
def documentOf (path : String) (content : Except FileError ByteArray) : Except String Automaton :=
  match content.bind textOf with
  | .error e => .error ("error reading '" ++ path ++ "': " ++ e.message)
  | .ok text =>
    match Document.load text with
    | .error e => .error ("error loading '" ++ path ++ "': " ++ e.message)
    | .ok a => .ok a

/-- The settings in a file that was read from a path, or a message. -/
def settingsOf (path : String) (content : Except FileError ByteArray) : Except String Settings :=
  match content.bind textOf with
  | .error e => .error ("error reading config '" ++ path ++ "': " ++ e.message)
  | .ok text =>
    match Settings.ofConfiguration? text with
    | none => .error ("error parsing config '" ++ path ++ "'")
    | some s => .ok s

variable {m : Type → Type} [Monad m]

/-- The settings at a path, or a message. Without a path they are the default settings. -/
def readSettings (system : Access m) : Option String → m (Except String Settings)
  | none => return .ok {}
  | some path => do return settingsOf path (← system.read path)

/-- The inputs of a run, or a message about the first that cannot be had. -/
def readInputs (system : Access m) (input : String) (config : Option String) :
    m (Except String Inputs) := do
  match documentOf input (← system.read input) with
  | .error message => return .error message
  | .ok document =>
    match ← readSettings system config with
    | .error message => return .error message
    | .ok settings => return .ok ⟨document, settings⟩

/-- The end of a run that has put source on the output stream. -/
def afterPrinting (i : Invocation) (text : String) : Except String Unit → Outcome
  | .error reason => failed i ("error writing output: " ++ reason)
  | .ok () => { code := 0, output := text }

/-- The end of a run that has written source to a file. -/
def afterWriting (i : Invocation) (target : Target) (path : String) :
    Except FileError Unit → Outcome
  | .error e => failed i ("error writing '" ++ path ++ "': " ++ e.message)
  | .ok () =>
    let note :=
      if i.quiet = false ∧ i.format = .text then
        "Generated " ++ target.name ++ " parser: " ++ path ++ "\n"
      else ""
    { code := 0, diagnostics := note }

/-- Put source into a file, or on the output stream. -/
def deliver (system : Access m) (i : Invocation) (target : Target) (out : Option String)
    (text : String) : m Outcome := do
  match out with
  | none => return afterPrinting i text (← system.print text)
  | some path => return afterWriting i target path (← system.write path text)

/-- Generate source for a target into a file, or to the output stream. -/
def generate (system : Access m) (i : Invocation) (target : Target) (out : Option String)
    (inputs : Inputs) : m Outcome :=
  match render inputs.settings target inputs.document with
  | .error fault =>
    return failed i ("error generating " ++ target.name ++ " parser: " ++ fault.message)
  | .ok text => deliver system i target out text

/-- The first target that source cannot be generated for, and the fault. -/
def firstFault (inputs : Inputs) : Option (Target × Fault) :=
  Target.all.findSome? fun target =>
    match render inputs.settings target inputs.document with
    | .error fault => some (target, fault)
    | .ok _ => none

/-- The report on a document that source can be generated from. -/
def report (i : Invocation) (input : String) (a : Automaton) : String :=
  let states := a.states.length
  let productions := a.productions.length
  let terminals := a.terminals.length
  let nonterminals := a.liveNonterminals.length
  match i.format with
  | .json =>
    (Tree.object [
      ("goals", .array (a.goals.keys.map fun goal => .text goal.pretty)),
      ("nonterminals", .natural nonterminals),
      ("ok", .boolean true),
      ("productions", .natural productions),
      ("states", .natural states),
      ("terminals", .natural terminals)]).write ++ "\n"
  | .text =>
    if i.quiet then ""
    else
      input ++ ": ok (" ++ toString states ++ " states, " ++ toString productions ++
        " productions, " ++ toString terminals ++ " terminals, " ++ toString nonterminals ++
        " nonterminals)\n"

/-- The end of a run that has printed a report. -/
def afterReport (text : String) : Except String Unit → Outcome
  | .error reason =>
    { code := brokenOff, diagnostics := "failed printing to stdout: " ++ reason ++ "\n" }
  | .ok () => { code := 0, output := text }

/-- Print a report, if there is one. -/
def announce (system : Access m) (text : String) : m Outcome := do
  if text = "" then return { code := 0 } else return afterReport text (← system.print text)

/-- Check that source can be generated for every target. -/
def check (system : Access m) (i : Invocation) (input : String) (inputs : Inputs) : m Outcome :=
  match firstFault inputs with
  | some (target, fault) =>
    return failed i (input ++ ": " ++ target.name ++ " target: " ++ fault.message)
  | none => announce system (report i input inputs.document)

/-- Do what the program is invoked for. -/
def perform (system : Access m) (i : Invocation) : m Outcome := do
  match i.job with
  | .generate input target out config =>
    match ← readInputs system input config with
    | .error message => return failed i message
    | .ok inputs => generate system i target out inputs
  | .check input config =>
    match ← readInputs system input config with
    | .error message => return failed i message
    | .ok inputs => check system i input inputs

/-- The end of a run whose diagnostics have been put on the error stream. -/
def afterComplaint (o : Outcome) : Except String Unit → Outcome
  | .error _ => { o with code := brokenOff }
  | .ok () => o

/-- Put the diagnostics on the error stream, if there are any. -/
def conclude (system : Access m) (o : Outcome) : m Outcome := do
  if o.diagnostics = "" then return o
  else return afterComplaint o (← system.complain o.diagnostics)

/-- Run the program, called by this name, with its arguments. Whether the streams take an answer
about the program itself does not matter. -/
def run (system : Access m) (name : String) (args : List String) : m Outcome := do
  match request args with
  | .run i => conclude system (← perform system i)
  | .help topic full =>
    let page := (topic.page full).text name full
    let _ ← system.print page
    return { code := 0, output := page }
  | .version =>
    let _ ← system.print versionText
    return { code := 0, output := versionText }
  | .misuse =>
    let usage := (Topic.program.page false).usageLine name
    let _ ← system.complain usage
    return { code := 2, diagnostics := usage }

end ParserTables.Command
