import ParserTables.Text.Quoted

/-!
# Symbols

The terminals and nonterminals of a grammar, and the elements on the right-hand side of a
production. An element is concrete when it occupies a slot of the value stack; an elided element
is matched without being pushed, and its text only ever appears in comments.
-/

namespace ParserTables.Grammar

open ParserTables.Text (quoted)

/-- A terminal symbol. -/
inductive Terminal where
  /-- A lexical symbol, known by its text. -/
  | symbol (text : String)
  /-- The end of the input. -/
  | endOfInput
  /-- The token that stands for a syntax error during recovery. -/
  | errorToken
deriving DecidableEq

/-- How a terminal is shown in comments and messages. -/
def Terminal.display : Terminal → String
  | .symbol text => quoted text
  | .endOfInput => "<END>"
  | .errorToken => "ErrorToken"

/-- A nonterminal: a name, and the values of its parameters if the grammar gives it any. -/
structure Nonterminal where
  name : String
  args : List (String × Bool)
deriving DecidableEq

namespace Nonterminal

/-- The nonterminal without parameters of the given name. -/
def plain (name : String) : Nonterminal := ⟨name, []⟩

/-- A parameter with the sign of its value. -/
def signedArg (arg : String × Bool) : String :=
  (if arg.2 then "+" else "~") ++ arg.1

/-- The nonterminal in grammar notation: the name, and the signed parameters in brackets. -/
def pretty (nt : Nonterminal) : String :=
  if nt.args.isEmpty then nt.name
  else nt.name ++ "[" ++ String.intercalate ", " (nt.args.map signedArg) ++ "]"

end Nonterminal

/-- An element of a right-hand side. -/
inductive Element where
  | terminal (t : Terminal)
  | nonterminal (nt : Nonterminal)
  | optional (inner : Element)
  | elided (text : String)
deriving DecidableEq

namespace Element

/-- Whether the element occupies a slot of the value stack. -/
def isConcrete : Element → Bool
  | .elided _ => false
  | _ => true

/-- How an element is shown in comments and messages. -/
def display : Element → String
  | .terminal t => t.display
  | .nonterminal nt => nt.pretty
  | .optional inner => inner.display ++ "?"
  | .elided text => "[" ++ text ++ "]"

end Element

end ParserTables.Grammar
