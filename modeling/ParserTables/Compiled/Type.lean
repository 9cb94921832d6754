import ParserTables.Grammar.Basic
import ParserTables.Fault

/-!
# Types of the compiled target

How a grammar type is spelled in the compiled target, and where the arena boxes go. A value that
is held in a slot of the stack is boxed, except that a box never stands around an optional value
but inside it, and that nothing inside a sequence is boxed. A value of the unit type cannot be
boxed.
-/

namespace ParserTables.Compiled

open ParserTables.Grammar

/-- A type of the compiled target. -/
inductive TargetType where
  | unit
  | token
  | option (inner : TargetType)
  | vector (inner : TargetType)
  | path (name : String) (args : List TargetType)
  | box (inner : TargetType)

namespace TargetType

mutual

/-- A type as it is written. -/
def written : TargetType → String
  | .unit => "()"
  | .token => "Token<'alloc>"
  | .option inner => "Option<" ++ inner.written ++ ">"
  | .vector inner => "Vec<'alloc, " ++ inner.written ++ ">"
  | .path name [] => name
  | .path name (arg :: args) =>
    name ++ "<" ++ String.intercalate ", " (arg.written :: writtenList args) ++ ">"
  | .box inner => "Box<'alloc, " ++ inner.written ++ ">"

/-- Several types as they are written. -/
def writtenList : List TargetType → List String
  | [] => []
  | t :: rest => t.written :: writtenList rest

end

/-- The type in a box, if it is to be boxed. -/
def boxedIf (boxed : Bool) (t : TargetType) : TargetType := if boxed then .box t else t

end TargetType

/-- The path of a declared type in a namespace. -/
def typePath (space name : String) : String :=
  if space = "" then name else space ++ "::" ++ name

mutual

/-- The target type of a grammar type, boxed for a slot of the stack or not. -/
def targetType (space : String) : Bool → ValueType → Except Fault TargetType
  | boxed, .unit => if boxed then .error (.boxedUnit ValueType.unit.spelling) else .ok .unit
  | boxed, .token => .ok (TargetType.boxedIf boxed .token)
  | boxed, .option inner => (targetType space boxed inner).map .option
  | boxed, .sequence inner =>
    (targetType space false inner).map fun t => TargetType.boxedIf boxed (.vector t)
  | boxed, .named name args =>
    (targetTypes space boxed args).map fun ts =>
      TargetType.boxedIf boxed (.path (typePath space name) ts)

/-- The target types of several grammar types. -/
def targetTypes (space : String) : Bool → List ValueType → Except Fault (List TargetType)
  | _, [] => .ok []
  | boxed, t :: rest => do
    let t ← targetType space boxed t
    let rest ← targetTypes space boxed rest
    return t :: rest

end

/-- The spelling of a grammar type in the compiled target. -/
def spellType (space : String) (boxed : Bool) (t : ValueType) : Except Fault String :=
  (targetType space boxed t).map TargetType.written

/-- The type of the value that a concrete element pushes. -/
def elementType (g : Declarations) : Element → Except Fault ValueType
  | .terminal t =>
    if g.isVariable t ∨ t = .errorToken then .ok .token else .ok .unit
  | .nonterminal nt =>
    match g.typeOf? nt with
    | some t => .ok t
    | none => .error (.missingType nt.pretty)
  | .optional inner => (elementType g inner).map .option
  | .elided _ => .ok .unit

end ParserTables.Compiled
