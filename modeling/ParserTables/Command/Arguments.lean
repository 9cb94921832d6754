import ParserTables.Generation
import ParserTables.Text.Split

/-!
# Command lines

The arguments of the program are read from left to right. An option with a value keeps the value
back until the next argument shows that it is complete; only then the value is checked. So a
request for help is answered, or not, according to what stands before it.

Options that are meant for the program as a whole may stand before the command or after it. The
ones after the command win. Every option except the one for verbosity is given at most once on
either side.
-/

namespace ParserTables.Command

open ParserTables.Text (cutAtFirst?)

/-- The form of diagnostics and reports. -/
inductive Format where
  | text
  | json
deriving DecidableEq

/-- The format with this name. -/
def Format.named? (name : String) : Option Format :=
  if name = "text" then some .text else if name = "json" then some .json else none

/-- The target with this name. -/
def targetNamed? (name : String) : Option Target := Target.all.find? (·.name == name)

/-- What the program is asked to do. -/
inductive Job where
  | generate (input : String) (target : Target) (out config : Option String)
  | check (input : String) (config : Option String)
deriving DecidableEq

/-- A job and how to report on it. -/
structure Invocation where
  job : Job
  format : Format
  quiet : Bool
deriving DecidableEq

/-- What help can be asked about. -/
inductive Topic where
  | program
  | generate
  | check
  | help
deriving DecidableEq

/-- What a command line turns out to be. -/
inductive Request where
  | run (invocation : Invocation)
  /-- A page of help, brief or in full. -/
  | help (topic : Topic) (full : Bool)
  | version
  | misuse
deriving DecidableEq

/-- The arguments that have a value. -/
inductive Slot where
  | format
  | target
  | out
  | config
  | input
deriving DecidableEq

/-- The places in which an argument can stand: before the command, or after it. -/
inductive Place where
  | front
  | generate
  | check
deriving DecidableEq

/-- What a request for help in a place is about. -/
def Place.topic : Place → Topic
  | .front => .program
  | .generate => .generate
  | .check => .check

/-- What has been given in one place. -/
structure Given where
  format : Option Format := none
  quiet : Bool := false
  target : Option Target := none
  out : Option String := none
  config : Option String := none
  input : Option String := none

/-- A path, which must not be empty. -/
def path? (value : String) : Option String := if value = "" then none else some value

/-- A place for one value. The value must be new and acceptable. -/
def storeIn {α : Type} (current : Option α) (read : String → Option α) (value : String) :
    Option (Option α) :=
  match current with
  | none => (read value).map some
  | some _ => none

/-- What has been given, with one more value. -/
def Given.store (g : Given) (value : String) : Slot → Option Given
  | .format => (storeIn g.format Format.named? value).map fun v => { g with format := v }
  | .target => (storeIn g.target targetNamed? value).map fun v => { g with target := v }
  | .out => (storeIn g.out path? value).map fun v => { g with out := v }
  | .config => (storeIn g.config path? value).map fun v => { g with config := v }
  | .input => (storeIn g.input path? value).map fun v => { g with input := v }

/-- An argument with a value that has not been stored yet. -/
inductive Pending where
  | nothing
  /-- The value has not been given yet. -/
  | awaiting (slot : Slot)
  /-- The value has been given and is not checked yet. -/
  | holding (slot : Slot) (value : String)

/-- Store what is pending. An option without its value is a misuse. -/
def Pending.settle (g : Given) : Pending → Option Given
  | .nothing => some g
  | .awaiting _ => none
  | .holding slot value => g.store value slot

/-- What an option does. -/
inductive Switch where
  | valued (slot : Slot)
  | quiet
  | verbose
  | help (full : Bool)
  | version
deriving DecidableEq

/-- The option that a long name stands for in a place. -/
def longOption? (place : Place) (name : String) : Option Switch :=
  if name = "output" then some (.valued .format)
  else if name = "quiet" then some .quiet
  else if name = "verbose" then some .verbose
  else if name = "help" then some (.help true)
  else if name = "version" ∧ place = .front then some .version
  else if name = "config" ∧ place ≠ .front then some (.valued .config)
  else if name = "target" ∧ place = .generate then some (.valued .target)
  else if name = "out" ∧ place = .generate then some (.valued .out)
  else none

/-- The option that a letter stands for in a place. -/
def shortOption? (place : Place) (letter : Char) : Option Switch :=
  if letter = 'v' then some .verbose
  else if letter = 'h' then some (.help false)
  else if letter = 'V' ∧ place = .front then some .version
  else none

/-- What an argument is by its spelling. -/
inductive Spelled where
  /-- Two hyphens: only paths follow. -/
  | escape
  /-- A long name, and a value after an equals sign if there is one. -/
  | long (name : String) (value : Option String)
  /-- Letters after one hyphen. -/
  | short (letters : List Char)
  /-- Anything else. -/
  | plain (value : String)

/-- An argument by its spelling. -/
def Spelled.ofArgument (arg : String) : Spelled :=
  match arg.toList with
  | ['-', '-'] => .escape
  | '-' :: '-' :: rest =>
    match cutAtFirst? '=' rest with
    | some (name, value) => .long (String.ofList name) (some (String.ofList value))
    | none => .long (String.ofList rest) none
  | ['-'] => .plain arg
  | '-' :: letters => .short letters
  | _ => .plain arg

/-- The state of reading in one place, or the answer that is known already. -/
inductive Step where
  | next (g : Given) (pending : Pending)
  | done (request : Request)

/-- An option without a value. -/
def Given.turnOn (place : Place) (g : Given) : Switch → Step
  | .quiet => if g.quiet then .done .misuse else .next { g with quiet := true } .nothing
  | .verbose => .next g .nothing
  | .help full => .done (.help place.topic full)
  | .version => .done .version
  | .valued slot => .next g (.awaiting slot)

/-- An option by its long name. -/
def stepLong (place : Place) (g : Given) (pending : Pending) (name : String)
    (value : Option String) : Step :=
  match longOption? place name, value with
  | none, _ => .done .misuse
  | some (.valued slot), some value =>
    match (pending.settle g).bind fun g => g.store value slot with
    | some g => .next g .nothing
    | none => .done .misuse
  | some _, some _ => .done .misuse
  | some option, none =>
    match pending.settle g with
    | some g => g.turnOn place option
    | none => .done .misuse

/-- Options by their letters. -/
def stepShort (place : Place) (g : Given) (pending : Pending) : List Char → Step
  | [] => .next g pending
  | letter :: letters =>
    match shortOption? place letter, pending.settle g with
    | some option, some g =>
      match g.turnOn place option with
      | .next g pending => stepShort place g pending letters
      | done => done
    | _, _ => .done .misuse

/-- A path in a place after the command. There is only one. -/
def stepInput (g : Given) (pending : Pending) (value : String) : Step :=
  match pending with
  | .holding .input _ => .done .misuse
  | pending =>
    match pending.settle g with
    | some g => if g.input.isSome then .done .misuse else .next g (.holding .input value)
    | none => .done .misuse

/-- The job of a command whose arguments have all been read. -/
def job? (place : Place) (g : Given) : Option Job :=
  match place with
  | .front => none
  | .generate => do return .generate (← g.input) (← g.target) g.out g.config
  | .check => do return .check (← g.input) g.config

/-- What a command with its arguments turns out to be, apart from what stands before it. -/
inductive Tail where
  | complete (job : Job) (given : Given)
  | answered (request : Request)

/-- The arguments after a command. After two hyphens, `onlyPaths` holds. -/
def readCommand (place : Place) (g : Given) (pending : Pending) (onlyPaths : Bool) :
    List String → Tail
  | [] =>
    match pending.settle g with
    | some g =>
      match job? place g with
      | some job => .complete job g
      | none => .answered .misuse
    | none => .answered .misuse
  | arg :: args =>
    let step :=
      if onlyPaths then stepInput g pending arg
      else
        match Spelled.ofArgument arg with
        | .escape => .next g pending
        | .long name value => stepLong place g pending name value
        | .short letters => stepShort place g pending letters
        | .plain value =>
          match pending with
          | .awaiting slot => .next g (.holding slot value)
          | pending => stepInput g pending value
    match step with
    | .next g pending => readCommand place g pending (onlyPaths || arg == "--") args
    | .done request => .answered request

/-- The command with this name. -/
def command? (name : String) : Option Place :=
  if name = "generate" then some .generate else if name = "check" then some .check else none

/-- The request for help on a command, or on the program. -/
def helpOn : List String → Request
  | [] => .help .program true
  | [name] =>
    if name = "help" then .help .help true
    else
      match command? name with
      | some place => .help place.topic true
      | none => .misuse
  | _ => .misuse

/-- A command together with what stood before it. What is pending there is only checked after
the command. -/
def combine (g : Given) (pending : Pending) : Tail → Request
  | .answered request => request
  | .complete job after =>
    match pending.settle g with
    | some before =>
      .run ⟨job, (after.format.orElse fun _ => before.format).getD .text,
        after.quiet || before.quiet⟩
    | none => .misuse

/-- The arguments before the command, and the command. -/
def readFront (g : Given) (pending : Pending) : List String → Request
  | [] => .misuse
  | arg :: args =>
    let proceed (step : Step) : Request :=
      match step with
      | .next g pending => readFront g pending args
      | .done request => request
    match Spelled.ofArgument arg with
    | .escape => .misuse
    | .long name value => proceed (stepLong .front g pending name value)
    | .short letters => proceed (stepShort .front g pending letters)
    | .plain value =>
      match pending with
      | .awaiting slot => proceed (.next g (.holding slot value))
      | pending =>
        if value = "help" then helpOn args
        else
          match command? value with
          | some place => combine g pending (readCommand place {} .nothing false args)
          | none => .misuse

/-- What the arguments of the program ask for. -/
def request (args : List String) : Request := readFront {} .nothing args

end ParserTables.Command
