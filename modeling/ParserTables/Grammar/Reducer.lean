import ParserTables.Text.Numeral

/-!
# Reducers

A reducer says how a production computes its value from the values in its slots. Slots are
counted from zero over the concrete elements of the production.
-/

namespace ParserTables.Grammar

open ParserTables.Text (decimal)

/-- The value of a production as an expression over its slots. -/
inductive Reducer where
  | slot (index : Nat)
  | none
  | some (inner : Reducer)
  /-- A call of a builder method. A method tag is a bare name, or the name of a nonterminal
  and a number when the nonterminal has several shapes. -/
  | call (method : String) (args : List Reducer)

namespace Reducer

mutual

/-- Equality of reducers is decided along their structure. -/
def decideEq : (s t : Reducer) → Decidable (s = t)
  | .slot i, .slot j =>
    if h : i = j then isTrue (h ▸ rfl) else isFalse fun e => h (Reducer.slot.inj e)
  | .none, .none => isTrue rfl
  | .some s, .some t =>
    match decideEq s t with
    | isTrue h => isTrue (h ▸ rfl)
    | isFalse h => isFalse fun e => h (Reducer.some.inj e)
  | .call n ss, .call m ts =>
    if hn : n = m then
      match decideEqList ss ts with
      | isTrue h => isTrue (hn ▸ h ▸ rfl)
      | isFalse h => isFalse fun e => h (Reducer.call.inj e).2
    else isFalse fun e => hn (Reducer.call.inj e).1
  | .slot _, .none | .slot _, .some _ | .slot _, .call _ _
  | .none, .slot _ | .none, .some _ | .none, .call _ _
  | .some _, .slot _ | .some _, .none | .some _, .call _ _
  | .call _ _, .slot _ | .call _ _, .none | .call _ _, .some _ =>
    isFalse (by intro h; cases h)

/-- Equality of lists of reducers is decided item by item. -/
def decideEqList : (ss ts : List Reducer) → Decidable (ss = ts)
  | [], [] => isTrue rfl
  | s :: ss, t :: ts =>
    match decideEq s t, decideEqList ss ts with
    | isTrue h, isTrue hs => isTrue (h ▸ hs ▸ rfl)
    | isFalse h, _ => isFalse fun e => h (List.cons.inj e).1
    | _, isFalse h => isFalse fun e => h (List.cons.inj e).2
  | [], _ :: _ => isFalse (by intro h; cases h)
  | _ :: _, [] => isFalse (by intro h; cases h)

end

instance : DecidableEq Reducer := decideEq

mutual

/-- How a reducer is shown in comments and messages. -/
def display : Reducer → String
  | .slot i => "$" ++ String.ofList (decimal i)
  | .none => "None"
  | .some inner => "Some(" ++ inner.display ++ ")"
  | .call method args => method ++ "(" ++ String.intercalate ", " (displayList args) ++ ")"

/-- How several reducers are shown. -/
def displayList : List Reducer → List String
  | [] => []
  | r :: rest => r.display :: displayList rest

end

end Reducer

end ParserTables.Grammar
