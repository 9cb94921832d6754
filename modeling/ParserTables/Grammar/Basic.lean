import ParserTables.Grammar.ValueType
import ParserTables.Grammar.Production
import ParserTables.OrderedMap

/-!
# Grammars

What is declared about the symbols of a grammar: the types of the nonterminals, the signatures
of the builder methods, and the terminals whose tokens carry a scanned value.
-/

namespace ParserTables.Grammar

/-- The signature of a builder method. -/
structure Signature where
  argumentTypes : List ValueType
  returnType : ValueType
  /-- Whether a call may fail, so that its failure has to be passed on. -/
  fallible : Bool
deriving DecidableEq

namespace Signature

/-- A signature of a method that cannot fail. -/
def infallible (argumentTypes : List ValueType) (returnType : ValueType) : Signature :=
  ⟨argumentTypes, returnType, false⟩

/-- The number of arguments that have a value at run time. -/
def valueArity (s : Signature) : Nat := (s.argumentTypes.filter fun t => !t.isUnit).length

end Signature

/-- The declarations of a grammar. -/
structure Declarations where
  nonterminalTypes : OrderedMap String ValueType
  methods : OrderedMap String Signature
  /-- The texts of the terminals that carry a scanned value, in order of declaration. -/
  variableTerminals : List String
deriving DecidableEq

namespace Declarations

/-- The declarations of an empty grammar. -/
def empty : Declarations := ⟨.empty, .empty, []⟩

/-- The signature of the method with this tag. -/
def method? (g : Declarations) (tag : String) : Option Signature := g.methods.get? tag

/-- The declared type of a nonterminal. It does not depend on the parameters. -/
def typeOf? (g : Declarations) (nt : Nonterminal) : Option ValueType :=
  g.nonterminalTypes.get? nt.name

/-- Whether the tokens of a terminal carry a scanned value. -/
def isVariable (g : Declarations) : Terminal → Bool
  | .symbol text => g.variableTerminals.contains text
  | .endOfInput => false
  | .errorToken => false

end Declarations

end ParserTables.Grammar
