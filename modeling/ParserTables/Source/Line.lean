/-!
# Lines of generated source

Generated source is a list of lines. A comment is a line of its own kind: its text may come from
anywhere, so line breaks in it are flattened, and nothing of it can reach the code.
-/

namespace ParserTables.Source

/-- A line of generated source. Indentation is counted in levels of four spaces. -/
inductive Line where
  | code (indent : Nat) (text : String)
  | comment (indent : Nat) (marker : String) (text : String)
deriving DecidableEq

/-- The empty line. -/
def blank : Line := .code 0 ""

/-- A text on one line: every line break becomes a space. -/
def flatten (text : String) : String :=
  String.ofList (text.toList.map fun c => if c = '\n' ∨ c = '\r' then ' ' else c)

/-- The spaces of an indentation. -/
def indentation (indent : Nat) : String := String.ofList (List.replicate (4 * indent) ' ')

/-- A line with its line break. A line of code without text is not indented. -/
def Line.text : Line → String
  | .code indent text => if text = "" then "\n" else indentation indent ++ text ++ "\n"
  | .comment indent marker text => indentation indent ++ marker ++ " " ++ flatten text ++ "\n"

/-- The text of a list of lines. -/
def text (lines : List Line) : String := String.join (lines.map Line.text)

@[simp] theorem text_nil : text [] = "" := rfl

end ParserTables.Source
