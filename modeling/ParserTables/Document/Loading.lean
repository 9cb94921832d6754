import ParserTables.Document.Decoding
import ParserTables.Document.Encoding

/-!
# Loading and saving documents

A document is loaded from its text, or from a generic JSON value that has been read before. It
is saved as compact text.
-/

namespace ParserTables.Document

open ParserTables.Json

/-- Why a document cannot be loaded. -/
structure LoadError where
  problem : Problem
deriving DecidableEq

/-- The error in words. -/
def LoadError.message (e : LoadError) : String := "invalid IR document: " ++ e.problem.message

/-- The document that a text holds. -/
def load (text : String) : Except LoadError Automaton :=
  (decodeText automaton text).mapError LoadError.mk

/-- The document that a generic JSON value holds. -/
def ofTree (t : Tree) : Except LoadError Automaton :=
  (automaton.accept t).mapError LoadError.mk

/-- The generic JSON value that a text holds. -/
def readTree (text : String) : Except Problem Tree :=
  Reader.whole (Reader.tree Reader.levels) (tokens text.toList)

/-- The text of a document. -/
def save (a : Automaton) : String := (automatonTree a).write

end ParserTables.Document
