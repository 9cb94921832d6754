/-!
# Types of grammar values

The type of what a nonterminal, a method argument or a method result stands for. A type is
written by a name and type arguments (`WrittenType`). Five spellings have a fixed meaning: `()`,
`Token`, `Option` and `Vec` name the built-in types, and no type is spelled by the empty name.
`ofWritten` is the classification of a written type, and `toWritten` writes a type down.
-/

namespace ParserTables.Grammar

/-- The type of a grammar value. -/
inductive ValueType where
  /-- No value at run time. -/
  | unit
  /-- A scanned token. -/
  | token
  /-- A value that may be absent. -/
  | option (inner : ValueType)
  /-- A sequence of values. -/
  | sequence (inner : ValueType)
  /-- A type that the grammar declares, possibly with arguments. -/
  | named (name : String) (args : List ValueType)

namespace ValueType

mutual

/-- Equality of types is decided along their structure. -/
def decideEq : (s t : ValueType) → Decidable (s = t)
  | .unit, .unit => isTrue rfl
  | .token, .token => isTrue rfl
  | .option s, .option t =>
    match decideEq s t with
    | isTrue h => isTrue (h ▸ rfl)
    | isFalse h => isFalse fun e => h (ValueType.option.inj e)
  | .sequence s, .sequence t =>
    match decideEq s t with
    | isTrue h => isTrue (h ▸ rfl)
    | isFalse h => isFalse fun e => h (ValueType.sequence.inj e)
  | .named n ss, .named m ts =>
    if hn : n = m then
      match decideEqList ss ts with
      | isTrue h => isTrue (hn ▸ h ▸ rfl)
      | isFalse h => isFalse fun e => h (ValueType.named.inj e).2
    else isFalse fun e => hn (ValueType.named.inj e).1
  | .unit, .token | .unit, .option _ | .unit, .sequence _ | .unit, .named _ _
  | .token, .unit | .token, .option _ | .token, .sequence _ | .token, .named _ _
  | .option _, .unit | .option _, .token | .option _, .sequence _ | .option _, .named _ _
  | .sequence _, .unit | .sequence _, .token | .sequence _, .option _ | .sequence _, .named _ _
  | .named _ _, .unit | .named _ _, .token | .named _ _, .option _ | .named _ _, .sequence _ =>
    isFalse (by intro h; cases h)

/-- Equality of lists of types is decided item by item. -/
def decideEqList : (ss ts : List ValueType) → Decidable (ss = ts)
  | [], [] => isTrue rfl
  | s :: ss, t :: ts =>
    match decideEq s t, decideEqList ss ts with
    | isTrue h, isTrue hs => isTrue (h ▸ hs ▸ rfl)
    | isFalse h, _ => isFalse fun e => h (List.cons.inj e).1
    | _, isFalse h => isFalse fun e => h (List.cons.inj e).2
  | [], _ :: _ => isFalse (by intro h; cases h)
  | _ :: _, [] => isFalse (by intro h; cases h)

end

instance : DecidableEq ValueType := decideEq

end ValueType

/-- A type as a document writes it: a name and arguments. -/
inductive WrittenType where
  | mk (name : String) (args : List WrittenType)

namespace WrittenType

/-- The name of a written type. -/
def name : WrittenType → String
  | .mk name _ => name

/-- A name with its arguments, separated by commas, between angle brackets. -/
def applied (name : String) (args : List String) : String :=
  if args.isEmpty then name else name ++ "<" ++ String.intercalate ", " args ++ ">"

mutual

/-- The spelling of a written type. -/
def spelling : WrittenType → String
  | .mk name args => applied name (spellings args)

/-- The spellings of several written types. -/
def spellings : List WrittenType → List String
  | [] => []
  | t :: rest => t.spelling :: spellings rest

end

end WrittenType

/-- Why a written type stands for no type. -/
inductive ShapeFault where
  | emptyName
  | unexpectedArguments
  | wrongArgumentCount (count : Nat)
deriving DecidableEq, Repr

/-- A fault in words. -/
def ShapeFault.reason : ShapeFault → String
  | .emptyName => "type name is empty"
  | .unexpectedArguments => "takes no type arguments"
  | .wrongArgumentCount n => "expects exactly one type argument, got " ++ toString n

/-- A written type that stands for no type, and the reason. -/
structure ShapeError where
  type : WrittenType
  fault : ShapeFault

/-- The error in words. -/
def ShapeError.message (e : ShapeError) : String :=
  "invalid type shape " ++ e.type.spelling ++ ": " ++ e.fault.reason

namespace ValueType

/-- The kinds of written names. -/
inductive NameKind where
  | empty
  | unit
  | token
  | option
  | sequence
  | declared
deriving DecidableEq, Repr

/-- What a written name stands for. -/
def kindOf (name : String) : NameKind :=
  if name = "" then .empty
  else if name = "()" then .unit
  else if name = "Token" then .token
  else if name = "Option" then .option
  else if name = "Vec" then .sequence
  else .declared

mutual

/-- The type that a written type stands for. A type is checked before its arguments, and the
arguments from left to right. -/
def ofWritten : WrittenType → Except ShapeError ValueType
  | .mk name args =>
    match kindOf name with
    | .empty => .error ⟨.mk name args, .emptyName⟩
    | .unit =>
      if args.isEmpty then .ok .unit else .error ⟨.mk name args, .unexpectedArguments⟩
    | .token =>
      if args.isEmpty then .ok .token else .error ⟨.mk name args, .unexpectedArguments⟩
    | .option =>
      match args with
      | [arg] => (ofWritten arg).map .option
      | args => .error ⟨.mk name args, .wrongArgumentCount args.length⟩
    | .sequence =>
      match args with
      | [arg] => (ofWritten arg).map .sequence
      | args => .error ⟨.mk name args, .wrongArgumentCount args.length⟩
    | .declared => (ofWrittenList args).map (.named name)

/-- The types that several written types stand for. -/
def ofWrittenList : List WrittenType → Except ShapeError (List ValueType)
  | [] => .ok []
  | t :: rest => do
    let t ← ofWritten t
    let rest ← ofWrittenList rest
    return t :: rest

end

mutual

/-- A type as a document writes it. -/
def toWritten : ValueType → WrittenType
  | .unit => .mk "()" []
  | .token => .mk "Token" []
  | .option inner => .mk "Option" [inner.toWritten]
  | .sequence inner => .mk "Vec" [inner.toWritten]
  | .named name args => .mk name (toWrittenList args)

/-- Several types as a document writes them. -/
def toWrittenList : List ValueType → List WrittenType
  | [] => []
  | t :: rest => t.toWritten :: toWrittenList rest

end

/-- The spelling of a type in messages and comments. -/
def spelling (t : ValueType) : String := t.toWritten.spelling

/-- Whether the type has no value at run time. -/
def isUnit : ValueType → Bool
  | .unit => true
  | _ => false

/-- A declared type without arguments. -/
def declared (name : String) : ValueType := .named name []

@[simp] theorem isUnit_iff (t : ValueType) : t.isUnit = true ↔ t = .unit := by
  cases t <;> simp [isUnit]

end ValueType

end ParserTables.Grammar
