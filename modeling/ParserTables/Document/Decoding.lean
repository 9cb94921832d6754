import ParserTables.Automaton
import ParserTables.Json.Record
import ParserTables.Json.Variant

/-!
# The JSON form of documents

How each part of a document is written in JSON, as decoders. A map with keys that are not
strings is written as a list of pairs, and is refused when a key repeats an earlier one.
-/

namespace ParserTables.Document

open ParserTables.Grammar ParserTables.Json

/-- The parts of a written type that have been read. -/
structure TypeDraft where
  name : Option String
  args : Option (List WrittenType)

/-- A written type in terms of its arguments. -/
def writtenTypeLayout (self : Decoder WrittenType) : Layout TypeDraft WrittenType where
  title := "struct TypeRepr"
  fields := [
    .of "name" false (·.name) (fun s v => { s with name := v }) .text,
    .of "args" true (·.args) (fun s v => { s with args := v }) (.list self "a sequence")]
  empty := ⟨none, none⟩
  build s := do
    let name ← Field.require "name" s.name
    return .mk name (s.args.getD [])

/-- A type as it is written. -/
def writtenType : Decoder WrittenType := .nested fun self => .record (writtenTypeLayout self)

/-- A type. -/
def valueType : Decoder ValueType :=
  writtenType.restrict fun w => (ValueType.ofWritten w).mapError ShapeError.message

/-- A terminal. -/
def terminal : Decoder Terminal :=
  .variants [
    .carrying "symbol" (Decoder.text.map .symbol),
    .bare "end" .endOfInput,
    .bare "error_token" .errorToken]

/-- The parts of a nonterminal that have been read. -/
structure NonterminalDraft where
  name : Option String
  args : Option (List (String × Bool))

/-- The parameters of a nonterminal with their values. -/
def parameters : Decoder (List (String × Bool)) := .list (.pair .text .boolean) "a sequence"

/-- The fields of a nonterminal. -/
def nonterminalLayout : Layout NonterminalDraft Nonterminal where
  title := "struct Nonterminal"
  fields := [
    .of "name" false (·.name) (fun s v => { s with name := v }) .text,
    .of "args" true (·.args) (fun s v => { s with args := v }) parameters]
  empty := ⟨none, none⟩
  build s := do
    let name ← Field.require "name" s.name
    return ⟨name, s.args.getD []⟩

/-- A nonterminal. -/
def nonterminal : Decoder Nonterminal := .record nonterminalLayout

/-- An element of a right-hand side. -/
def element : Decoder Element :=
  .nested fun self => .variants [
    .carrying "terminal" (terminal.map .terminal),
    .carrying "nonterminal" (nonterminal.map .nonterminal),
    .carrying "optional" (self.map .optional),
    .carrying "elided" (Decoder.text.map .elided)]

/-- The parts of a method call that have been read. -/
structure CallDraft where
  method : Option String
  args : Option (List Reducer)

/-- A method call in terms of its arguments. -/
def callLayout (self : Decoder Reducer) : Layout CallDraft Reducer where
  title := "struct MethodCall"
  fields := [
    .of "method" false (·.method) (fun s v => { s with method := v }) .text,
    .of "args" false (·.args) (fun s v => { s with args := v }) (.list self "a sequence")]
  empty := ⟨none, none⟩
  build s := do
    let method ← Field.require "method" s.method
    let args ← Field.require "args" s.args
    return .call method args

/-- A reducer. -/
def reducer : Decoder Reducer :=
  .nested fun self => .variants [
    .carrying "slot" (Decoder.natural.map .slot),
    .bare "none" .none,
    .carrying "some" (self.map .some),
    .carrying "call" (.record (callLayout self))]

/-- The parts of a production that have been read. -/
structure ProductionDraft where
  nt : Option Nonterminal
  rhs : Option (List Element)
  reducer : Option Reducer
  goal : Option Bool

/-- The fields of a production. -/
def productionLayout : Layout ProductionDraft Production where
  title := "struct Production"
  fields := [
    .of "nt" false (·.nt) (fun s v => { s with nt := v }) nonterminal,
    .of "rhs" false (·.rhs) (fun s v => { s with rhs := v }) (.list element "a sequence"),
    .of "reducer" false (·.reducer) (fun s v => { s with reducer := v }) reducer,
    .of "goal" true (·.goal) (fun s v => { s with goal := v }) .boolean]
  empty := ⟨none, none, none, none⟩
  build s := do
    let nt ← Field.require "nt" s.nt
    let rhs ← Field.require "rhs" s.rhs
    let reducer ← Field.require "reducer" s.reducer
    return ⟨nt, rhs, reducer, s.goal.getD false⟩

/-- A production. -/
def production : Decoder Production := .record productionLayout

/-- The parts of a signature that have been read. -/
structure SignatureDraft where
  argumentTypes : Option (List ValueType)
  returnType : Option ValueType
  fallible : Option Bool

/-- The fields of a signature. -/
def signatureLayout : Layout SignatureDraft Signature where
  title := "struct MethodType"
  fields := [
    .of "argument_types" false (·.argumentTypes) (fun s v => { s with argumentTypes := v })
      (.list valueType "a sequence"),
    .of "return_type" false (·.returnType) (fun s v => { s with returnType := v }) valueType,
    .of "fallible" true (·.fallible) (fun s v => { s with fallible := v }) .boolean]
  empty := ⟨none, none, none⟩
  build s := do
    let argumentTypes ← Field.require "argument_types" s.argumentTypes
    let returnType ← Field.require "return_type" s.returnType
    return ⟨argumentTypes, returnType, s.fallible.getD false⟩

/-- A signature. -/
def signature : Decoder Signature := .record signatureLayout

/-- A map with string keys. A repeated key keeps its place and takes the last value. -/
def stringMap {ν : Type} (d : Decoder ν) : Decoder (OrderedMap String ν) :=
  .table d .empty OrderedMap.insert

/-- A set of strings in the order in which they first appear. -/
def stringSet : Decoder (List String) :=
  (Decoder.list .text "a set").map (firstAppearances [])

/-- The parts of the declarations that have been read. -/
structure DeclarationsDraft where
  nonterminalTypes : Option (OrderedMap String ValueType)
  methods : Option (OrderedMap String Signature)
  variableTerminals : Option (List String)

/-- The fields of the declarations. -/
def declarationsLayout : Layout DeclarationsDraft Declarations where
  title := "struct Grammar"
  fields := [
    .of "nonterminal_types" true (·.nonterminalTypes)
      (fun s v => { s with nonterminalTypes := v }) (stringMap valueType),
    .of "methods" true (·.methods) (fun s v => { s with methods := v }) (stringMap signature),
    .of "variable_terminals" true (·.variableTerminals)
      (fun s v => { s with variableTerminals := v }) stringSet]
  empty := ⟨none, none, none⟩
  build s := return ⟨s.nonterminalTypes.getD .empty, s.methods.getD .empty,
    s.variableTerminals.getD []⟩

/-- The declarations of a grammar. -/
def declarations : Decoder Declarations := .record declarationsLayout

/-- The entries of a row in order. A key that repeats an earlier one is refused under the name
that `display` gives it. -/
def rowOf {κ ν : Type} [DecidableEq κ] (display : κ → String) (pairs : List (κ × ν)) :
    Except String (OrderedMap κ ν) :=
  (OrderedMap.ofPairs? pairs).mapError fun k => "duplicate key " ++ display k

/-- A map written as a list of pairs. -/
def row {κ ν : Type} [DecidableEq κ] (display : κ → String) (key : Decoder κ)
    (value : Decoder ν) : Decoder (OrderedMap κ ν) :=
  (Decoder.list (.pair key value) "a sequence").restrict (rowOf display)

/-- An action row. -/
def actionRow : Decoder (OrderedMap Terminal Int) := row Terminal.display terminal .integer

/-- A goto row, or the entry states of the goals. -/
def gotoRow : Decoder (OrderedMap Nonterminal Nat) := row Nonterminal.pretty nonterminal .natural

/-- The parts of a state that have been read. -/
structure StateDraft where
  actions : Option (OrderedMap Terminal Int)
  gotos : Option (OrderedMap Nonterminal Nat)
  errorCode : Option (Option String)
  trace : Option (Option String)

/-- The fields of a state. -/
def stateLayout : Layout StateDraft State where
  title := "struct State"
  fields := [
    .of "action_row" true (·.actions) (fun s v => { s with actions := v }) actionRow,
    .of "goto_row" true (·.gotos) (fun s v => { s with gotos := v }) gotoRow,
    .of "error_code" true (·.errorCode) (fun s v => { s with errorCode := v }) .nullableText,
    .of "traceback" true (·.trace) (fun s v => { s with trace := v }) .nullableText]
  empty := ⟨none, none, none, none⟩
  build s := return ⟨s.actions.getD .empty, s.gotos.getD .empty, s.errorCode.getD none,
    s.trace.getD none⟩

/-- A state. -/
def state : Decoder State := .record stateLayout

/-- The parts of an automaton that have been read. -/
structure AutomatonDraft where
  grammar : Option Declarations
  states : Option (List State)
  productions : Option (List Production)
  goals : Option (OrderedMap Nonterminal Nat)

/-- The fields of an automaton. -/
def automatonLayout : Layout AutomatonDraft Automaton where
  title := "struct ParserStates"
  fields := [
    .of "grammar" false (·.grammar) (fun s v => { s with grammar := v }) declarations,
    .of "states" false (·.states) (fun s v => { s with states := v })
      (.list state "a sequence"),
    .of "prods" false (·.productions) (fun s v => { s with productions := v })
      (.list production "a sequence"),
    .of "init_state_map" false (·.goals) (fun s v => { s with goals := v }) gotoRow]
  empty := ⟨none, none, none, none⟩
  build s := do
    let grammar ← Field.require "grammar" s.grammar
    let states ← Field.require "states" s.states
    let productions ← Field.require "prods" s.productions
    let goals ← Field.require "init_state_map" s.goals
    return ⟨grammar, states, productions, goals⟩

/-- A whole document. -/
def automaton : Decoder Automaton := .record automatonLayout

end ParserTables.Document
