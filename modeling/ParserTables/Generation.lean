import ParserTables.Check
import ParserTables.Compiled.Emission
import ParserTables.Interpreted.Emission

/-!
# Generating source

Generation checks a document, makes the unit of a target, and writes it to a sink. The text is
complete before the sink sees any of it, so a document that cannot be generated from leaves the
sink as it was.
-/

namespace ParserTables

/-- The languages that source is generated in. -/
inductive Target where
  /-- Tables for a runtime that interprets them. -/
  | interpreted
  /-- Typed tables and a dispatcher for a compiled runtime. -/
  | compiled
deriving DecidableEq

namespace Target

/-- The name of a target in messages. -/
def name : Target → String
  | .interpreted => "python"
  | .compiled => "rust"

/-- All targets, in the order in which they are checked. -/
def all : List Target := [.interpreted, .compiled]

end Target

/-- The lines of a document's unit for a target. -/
def unitLines (settings : Settings) (a : Automaton) : Target → Except Fault (List Source.Line)
  | .interpreted =>
    (Interpreted.sourceUnit settings.interpreted.package a).map Interpreted.SourceUnit.lines
  | .compiled => (Compiled.sourceUnit settings.compiled a).map Compiled.SourceUnit.lines

/-- The generated source of a document. -/
def render (settings : Settings) (target : Target) (a : Automaton) : Except Fault String := do
  a.check
  let lines ← unitLines settings a target
  return Source.text lines

end ParserTables
