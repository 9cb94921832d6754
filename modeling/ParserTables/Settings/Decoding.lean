import ParserTables.Json.Record
import ParserTables.Json.Tree
import ParserTables.Settings.Basic

/-!
# The JSON form of settings

Settings are a record with one record for each target. A setting that is not written has its
default value.
-/

namespace ParserTables.Settings

open ParserTables.Json

/-- The settings of the interpreted target that have been read. -/
structure InterpretedDraft where
  package : Option String

/-- The fields of the interpreted target. -/
def interpretedLayout : Layout InterpretedDraft InterpretedSettings where
  title := "struct PythonConfig"
  fields := [
    .of "runtime_package" true (·.package) (fun s v => { s with package := v }) .text]
  empty := ⟨none⟩
  build s :=
    let standard : InterpretedSettings := {}
    return ⟨s.package.getD standard.package⟩

/-- The settings of the compiled target that have been read. -/
structure CompiledDraft where
  uses : Option (List String)
  handler : Option String
  typeSpace : Option String
  runtimeParse : Option String
  fallibleMethods : Option (List String)

/-- A list of strings. -/
def texts : Decoder (List String) := .list .text "a sequence"

/-- The fields of the compiled target. -/
def compiledLayout : Layout CompiledDraft CompiledSettings where
  title := "struct RustConfig"
  fields := [
    .of "uses" true (·.uses) (fun s v => { s with uses := v }) texts,
    .of "handler" true (·.handler) (fun s v => { s with handler := v }) .text,
    .of "namespace" true (·.typeSpace) (fun s v => { s with typeSpace := v }) .text,
    .of "runtime_parse" true (·.runtimeParse) (fun s v => { s with runtimeParse := v }) .text,
    .of "fallible_methods" true (·.fallibleMethods)
      (fun s v => { s with fallibleMethods := v }) texts]
  empty := ⟨none, none, none, none, none⟩
  build s :=
    let standard : CompiledSettings := {}
    return {
      uses := s.uses.getD standard.uses
      handler := s.handler.getD standard.handler
      typeSpace := s.typeSpace.getD standard.typeSpace
      runtimeParse := s.runtimeParse.getD standard.runtimeParse
      fallibleMethods := s.fallibleMethods.getD standard.fallibleMethods }

/-- The settings of both targets that have been read. -/
structure SettingsDraft where
  interpreted : Option InterpretedSettings
  compiled : Option CompiledSettings

/-- The fields of the settings. -/
def settingsLayout : Layout SettingsDraft Settings where
  title := "struct EmitConfig"
  fields := [
    .of "python" true (·.interpreted) (fun s v => { s with interpreted := v })
      (.record interpretedLayout),
    .of "rust" true (·.compiled) (fun s v => { s with compiled := v })
      (.record compiledLayout)]
  empty := ⟨none, none⟩
  build s := return ⟨s.interpreted.getD {}, s.compiled.getD {}⟩

/-- The settings of both targets. -/
def settings : Decoder Settings := .record settingsLayout

/-- Settings as a JSON value. -/
def settingsTree (s : Settings) : Tree :=
  .object [
    ("python", .object [("runtime_package", .text s.interpreted.package)]),
    ("rust", .object [
      ("uses", .array (s.compiled.uses.map .text)),
      ("handler", .text s.compiled.handler),
      ("namespace", .text s.compiled.typeSpace),
      ("runtime_parse", .text s.compiled.runtimeParse),
      ("fallible_methods", .array (s.compiled.fallibleMethods.map .text))])]

end ParserTables.Settings
