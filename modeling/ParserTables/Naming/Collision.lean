import ParserTables.OrderedMap
import ParserTables.Fault
import ParserTables.Naming.Symbol
import ParserTables.Naming.Terminal

/-!
# Name collisions

Things that are told apart in a document must be told apart in the generated source. A collision
is a pair of things with the same generated name; the first one is reported whose second member
comes earliest.
-/

namespace ParserTables.Naming

open ParserTables.Grammar

/-- Two things that get the same name. -/
structure Collision (α : Type) where
  first : α
  second : α
  name : String

/-- The earliest thing that gets the name of one before it, together with that one. `seen` holds
the things before the list with their names. -/
def collisionAfter {α : Type} (name : α → String) (seen : List (String × α)) :
    List α → Option (Collision α)
  | [] => none
  | a :: rest =>
    match seen.lookup (name a) with
    | some b => some ⟨b, a, name a⟩
    | none => collisionAfter name (seen ++ [(name a, a)]) rest

/-- The earliest thing that gets the name of one before it. -/
def collision? {α : Type} (name : α → String) (as : List α) : Option (Collision α) :=
  collisionAfter name [] as

/-- The collision as a clash, under the names that `display` gives the two things. -/
def Collision.clash {α : Type} (c : Collision α) (display : α → String) : Clash :=
  ⟨display c.first, display c.second, c.name⟩

/-- Succeed if there is no collision, and fail with the fault made from it otherwise. -/
def distinct {α : Type} (name display : α → String) (fault : Clash → Fault) (as : List α) :
    Except Fault Unit :=
  match collision? name as with
  | some c => .error (fault (c.clash display))
  | none => .ok ()

/-- Nonterminals must have distinct camel forms. -/
def checkNonterminals (nts : List Nonterminal) : Except Fault Unit :=
  distinct nonterminalCamel Nonterminal.pretty .nonterminalClash nts

/-- Terminals must have distinct variant names. -/
def checkTerminals (ts : List Terminal) : Except Fault Unit :=
  distinct terminalName Terminal.display .terminalClash ts

/-- Error codes must have distinct camel forms. The same code may occur many times. -/
def checkErrorCodes (codes : List String) : Except Fault Unit :=
  distinct camel id .errorCodeClash (firstAppearances [] codes)

/-- Goals must have distinct snake forms, which name their entry points. -/
def checkGoals (goals : List Nonterminal) : Except Fault Unit :=
  distinct (fun goal => snake goal.name) Nonterminal.pretty .goalClash goals

end ParserTables.Naming
