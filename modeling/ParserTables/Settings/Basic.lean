/-!
# Settings

What can be configured about the generated source. Every setting has a default, so that an empty
configuration generates for the stock runtimes.
-/

namespace ParserTables

/-- The settings of the interpreted target. -/
structure InterpretedSettings where
  /-- The package of the module that walks the tables. -/
  package : String := "lrgen"
deriving DecidableEq

/-- The methods that can fail in grammars whose signatures do not say so. -/
def defaultFallibleMethods : List String := [
  "assignment_expression",
  "compound_assignment_expression",
  "expression_to_parameter_list",
  "for_assignment_target",
  "for_await_of_statement",
  "post_decrement_expr",
  "post_increment_expr",
  "pre_decrement_expr",
  "pre_increment_expr"]

/-- The imports of the stock runtime. -/
def defaultUses : List String := [
  "ast::arena::\x7bBox, Vec\x7d",
  "ast::types::*",
  "crate::ast_builder::AstBuilder",
  "crate::stack_value_generated::\x7bStackValue, TryIntoStack\x7d",
  "crate::error::Result"]

/-- The settings of the compiled target. -/
structure CompiledSettings where
  /-- The paths that the generated source imports. -/
  uses : List String := defaultUses
  /-- The type of the builder. -/
  handler : String := "AstBuilder"
  /-- The path in front of the names of declared types; empty for none. -/
  typeSpace : String := ""
  /-- The function of the runtime that drives the tables. -/
  runtimeParse : String := "crate::parser_runtime::parse"
  /-- The names of methods whose calls pass failures on, whatever their signatures say. -/
  fallibleMethods : List String := defaultFallibleMethods
deriving DecidableEq

/-- Whether a method of the compiled target is listed as fallible. -/
def CompiledSettings.listsFallible (s : CompiledSettings) (method : String) : Bool :=
  s.fallibleMethods.contains method

/-- The settings of both targets. -/
structure Settings where
  interpreted : InterpretedSettings := {}
  compiled : CompiledSettings := {}
deriving DecidableEq

end ParserTables
