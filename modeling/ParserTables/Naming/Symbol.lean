import ParserTables.Grammar.Symbol
import ParserTables.Naming.Identifier

/-!
# Names of nonterminals and methods

A nonterminal is named by its base name and the parameters that are bound to true. A builder
method is named by its tag, which is either a bare name or the name of a nonterminal and a
number, separated by a blank.
-/

namespace ParserTables.Naming

open ParserTables.Grammar ParserTables.Text

/-- The snake form of a nonterminal: its name, and after an underscore each parameter that is
bound to true. -/
def nonterminalSnake (nt : Nonterminal) : String :=
  snake nt.name ++ String.join ((nt.args.filter (·.2)).map fun arg => "_" ++ snake arg.1)

/-- The camel form of a nonterminal, which names its variant. -/
def nonterminalCamel (nt : Nonterminal) : String := camel (nonterminalSnake nt)

/-- The name of a method in the compiled target: the snake form of the tag, with `p` in front of
the number. -/
def compiledMethod (tag : String) : String :=
  match cutAtFirst? ' ' tag.toList with
  | some (name, number) =>
    String.ofList (snakeChars name ++ ['_', 'p'] ++ number)
  | none => snake tag

/-- The name of a method in the interpreted target: the tag, with `_P` in place of each
blank. -/
def interpretedMethod (tag : String) : String :=
  String.ofList (replaceChar ' ' ['_', 'P'] tag.toList)

/-- The name of the constant that holds the entry state of a goal. -/
def startStateName (goal : Nonterminal) : String :=
  "START_STATE_" ++ String.ofList (upper (snakeChars goal.name.toList))

end ParserTables.Naming
