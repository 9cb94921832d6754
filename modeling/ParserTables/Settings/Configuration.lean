import ParserTables.Settings.Basic
import ParserTables.Toml.Document

/-!
# Settings from configuration documents

A configuration document has a table for each target. In place of a table there may be an array
with the settings in their own order; what stands after them is not looked at. Keys without a
meaning are ignored, and so is a date in place of a table, which has no key with a meaning.
-/

namespace ParserTables.Settings

open ParserTables.Toml

/-- A string. -/
def text? : Node → Option String
  | .text s => some s
  | _ => none

/-- A list of strings. -/
def texts? : Node → Option (List String)
  | .array items => items.mapM text?
  | _ => none

/-- The values of a record: for each of its keys the value that is given, if any. -/
def values? (keys : List String) : Node → Option (List (Option Node))
  | .table _ ms => some (keys.map fun k => ms.lookup k)
  | .inline ms => some (keys.map fun k => ms.lookup k)
  | .moment _ => some (keys.map fun _ => none)
  | .array items => some (keys.zipIdx.map fun k => items[k.2]?)
  | .tables earlier last =>
    let items := earlier ++ [last]
    some (keys.zipIdx.map fun k => (items[k.2]?).map (.table .header))
  | _ => none

/-- A setting that is read by `read` when it is given, and has its default otherwise. -/
def given {α : Type} (read : Node → Option α) (standard : α) : Option Node → Option α
  | none => some standard
  | some node => read node

/-- The settings of the interpreted target. -/
def interpreted? (node : Node) : Option InterpretedSettings := do
  let standard : InterpretedSettings := {}
  match ← values? ["runtime_package"] node with
  | [package] => return ⟨← given text? standard.package package⟩
  | _ => none

/-- The settings of the compiled target. -/
def compiled? (node : Node) : Option CompiledSettings := do
  let standard : CompiledSettings := {}
  match ← values? ["uses", "handler", "namespace", "runtime_parse", "fallible_methods"] node with
  | [uses, handler, typeSpace, runtimeParse, fallibleMethods] =>
    return {
      uses := ← given texts? standard.uses uses
      handler := ← given text? standard.handler handler
      typeSpace := ← given text? standard.typeSpace typeSpace
      runtimeParse := ← given text? standard.runtimeParse runtimeParse
      fallibleMethods := ← given texts? standard.fallibleMethods fallibleMethods }
  | _ => none

/-- The settings that the text of a configuration document gives. -/
def ofConfiguration? (configuration : String) : Option Settings := do
  let ms ← parse? configuration
  let interpreted ← given interpreted? {} (ms.lookup "python")
  let compiled ← given compiled? {} (ms.lookup "rust")
  return ⟨interpreted, compiled⟩

end ParserTables.Settings
