import ParserTables.Json.Decoder

/-!
# Variants

A value of a type with several variants is written as the name of its variant, if the variant
carries nothing, and as an object with that name as its only key otherwise. A variant that
carries nothing may also be written as an object whose only member is null.
-/

namespace ParserTables.Json

/-- A variant: its name, and its value or the form of what it carries. -/
inductive Variant (α : Type) where
  | bare (name : String) (value : α)
  | carrying (name : String) (content : Decoder α)

namespace Variant

variable {α : Type}

/-- The name of the variant. -/
def name : Variant α → String
  | .bare name _ => name
  | .carrying name _ => name

/-- The variant with the given name. -/
def named (variants : List (Variant α)) (key : String) : Except Problem (Variant α) :=
  match variants.find? (·.name == key) with
  | some v => .ok v
  | none => .error (.unknownVariant key (variants.map name))

/-- The value of a variant of which only the name is written. -/
def alone : Variant α → Except Problem α
  | .bare _ value => .ok value
  | .carrying _ _ => .error (.invalidType .unitVariant "newtype variant")

/-- The form of what stands beside the name. -/
def content : Variant α → Decoder α
  | .bare _ value => Decoder.unit.map fun _ => value
  | .carrying _ content => content

/-- What stands between the braces of a variant. There has to be a member. -/
def scanMember (variants : List (Variant α)) (budget : Nat) : Reader α := fun ts => do
  let some ts ← Reader.nextKey true ts | .error .expectedValue
  let (key, ts) ← Reader.textAs "variant identifier" ts
  let v ← named variants key
  let ts ← Reader.afterColon ts
  v.content.scan budget ts

/-- The tokens after the brace that closes a variant. -/
def endMember : List Token → Except Problem (List Token)
  | .closeBrace :: rest => .ok rest
  | [] => .error .eofInObject
  | _ => .error .expectedValue

/-- One of several variants, from the tokens of a text. -/
def scanOne (variants : List (Variant α)) (budget : Nat) : Reader α
  | .text name :: rest => do
    let v ← named variants (← name)
    let a ← v.alone
    return (a, rest)
  | .faultyText p _ :: _ => .error p
  | .openBrace :: rest =>
    match budget with
    | 0 => .error .recursionLimit
    | budget + 1 => do
      let (a, rest) ← scanMember variants budget rest
      let rest ← endMember rest
      return (a, rest)
  | [] => .error .eofInValue
  | _ => .error .expectedValue

/-- One of several variants, from a generic value. -/
def acceptOne (variants : List (Variant α)) : Tree → Except Problem α
  | .text name => do
    let v ← named variants name
    v.alone
  | .object [(key, t)] => do
    let v ← named variants key
    v.content.accept t
  | .object _ => .error (.invalidValue .map "map with a single key")
  | t => .error (.invalidType t.found "string or map")

end Variant

/-- One of several variants. -/
def Decoder.variants {α : Type} (vs : List (Variant α)) : Decoder α where
  scan := Variant.scanOne vs
  accept := Variant.acceptOne vs

end ParserTables.Json
