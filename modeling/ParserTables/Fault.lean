/-!
# Why generation fails

Every failure of generation is a mismatch inside the document, or a sink that does not take the
output. `Fault.message` puts a fault into words.
-/

namespace ParserTables

/-- Two things that would get the same name. -/
structure Clash where
  first : String
  second : String
  name : String
deriving DecidableEq

/-- A failure of generation. -/
inductive Fault where
  /-- Two live nonterminals with the same camel form. -/
  | nonterminalClash (clash : Clash)
  /-- Two terminals with the same variant name. -/
  | terminalClash (clash : Clash)
  /-- Two error codes with the same camel form. -/
  | errorCodeClash (clash : Clash)
  /-- Two goals with the same snake form. -/
  | goalClash (clash : Clash)
  /-- A reducer calls a method that is not declared. -/
  | unknownMethod (method production : String)
  /-- A reducer calls a method with the wrong number of arguments. -/
  | arityMismatch (method production : String) (expected found : Nat)
  /-- A reducer reads a slot that the production does not have. -/
  | slotOutOfRange (slot concrete : Nat) (production : String)
  /-- The type of a nonterminal is needed and not declared. -/
  | missingType (nonterminal : String)
  /-- A value of the unit type would have to be boxed. -/
  | boxedUnit (type : String)
  /-- A goal has parameters. -/
  | goalWithArguments (goal : String)
  /-- A goal starts in a state that does not exist. -/
  | goalStateOutOfRange (goal : String) (state count : Nat)
  /-- The sink failed. -/
  | sink (reason : String)
deriving DecidableEq

/-- A fault in words. -/
def Fault.message : Fault → String
  | .nonterminalClash c =>
    c.first ++ " and " ++ c.second ++ " have the same camel-case spelling (" ++ c.name ++ ")"
  | .terminalClash c =>
    "terminals " ++ c.first ++ " and " ++ c.second ++ " would share the variant TerminalId::" ++
      c.name
  | .errorCodeClash c =>
    "error codes '" ++ c.first ++ "' and '" ++ c.second ++
      "' would share the variant ErrorCode::" ++ c.name
  | .goalClash c =>
    "goal nonterminals " ++ c.first ++ " and " ++ c.second ++
      " would share the entry point parse_" ++ c.name
  | .unknownMethod method production =>
    "production `" ++ production ++ "` calls unknown method '" ++ method ++ "'"
  | .arityMismatch method production expected found =>
    "production `" ++ production ++ "` calls '" ++ method ++ "' with " ++ toString found ++
      " arguments, but it is declared with " ++ toString expected
  | .slotOutOfRange slot concrete production =>
    "production `" ++ production ++ "` reads slot " ++ toString slot ++ ", but it has only " ++
      toString concrete ++ " concrete elements"
  | .missingType nonterminal => "no result type declared for nonterminal " ++ nonterminal
  | .boxedUnit type => "cannot box a unit-typed value (" ++ type ++ ")"
  | .goalWithArguments goal => "goal nonterminal " ++ goal ++ " must not take arguments"
  | .goalStateOutOfRange goal state count =>
    "goal nonterminal " ++ goal ++ " starts in state " ++ toString state ++
      ", but there are only " ++ toString count ++ " states"
  | .sink reason => "I/O error: " ++ reason

end ParserTables
