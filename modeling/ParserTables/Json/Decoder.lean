import ParserTables.Json.Reading
import ParserTables.Json.Passing
import ParserTables.Json.Lexer

/-!
# Decoders

A decoder describes the JSON form of a type once, and reads it in two ways: `scan` reads it from
the tokens of a text, from left to right, so that the first problem of the text wins, be it one
of syntax or of shape; `accept` takes it from a generic value that has been read before.

The two ways agree on what they accept. Some problems are described differently, because a
generic value shows at once what a text only shows later.

A decoder for a nested type is the least fixed point of its own description (`Decoder.nested`).
Every level of nesting opens an array or an object, so the levels of the budget, or the depth of
the value, bound the number of unfoldings.
-/

namespace ParserTables.Json

open ParserTables.Text (signedBound)

/-- The two ways of reading a JSON form. The number given to `scan` is the budget of arrays and
objects that may still be opened. -/
structure Decoder (α : Type) where
  scan : Nat → Reader α
  accept : Tree → Except Problem α

namespace Decoder

variable {α β σ : Type}

/-- A form that is a single token: `take` looks at what was found. -/
def leaf (take : Found → Except Problem α) : Decoder α where
  scan _ ts := do
    let found ← Reader.foundAt ts
    let a ← take found
    return (a, ts.tail)
  accept t := take t.found

/-- A string. -/
def text : Decoder String :=
  leaf fun
    | .text s => .ok s
    | found => .error (.invalidType found "a string")

/-- A string, or null for its absence. -/
def nullableText : Decoder (Option String) :=
  leaf fun
    | .null => .ok none
    | .text s => .ok (some s)
    | found => .error (.invalidType found "a string")

/-- A boolean. -/
def boolean : Decoder Bool :=
  leaf fun
    | .boolean b => .ok b
    | found => .error (.invalidType found "a boolean")

/-- Null, which carries no information. -/
def unit : Decoder Unit :=
  leaf fun
    | .null => .ok ()
    | found => .error (.invalidType found "unit")

/-- An integer from `-2 ^ 63` to `2 ^ 63 - 1`. -/
def integer : Decoder Int :=
  leaf fun
    | .number (.integer n) =>
      if n < Int.ofNat signedBound then .ok n
      else .error (.invalidValue (.number (.integer n)) "i64")
    | found => .error (.invalidType found "i64")

/-- An integer from `0` to `2 ^ 64 - 1`. -/
def natural : Decoder Nat :=
  leaf fun
    | .number (.integer n) =>
      match n with
      | .ofNat k => .ok k
      | .negSucc _ => .error (.invalidValue (.number (.integer n)) "usize")
    | found => .error (.invalidType found "usize")

/-- The same form with its value transformed. -/
def map (f : α → β) (d : Decoder α) : Decoder β where
  scan budget ts := (d.scan budget ts).map fun p => (f p.1, p.2)
  accept t := (d.accept t).map f

/-- The same form, except that `rule` may refuse the value once it has been read, or transform
it. -/
def restrict (rule : α → Except String β) (d : Decoder α) : Decoder β where
  scan budget ts := do
    let (a, ts) ← d.scan budget ts
    match rule a with
    | .ok b => return (b, ts)
    | .error reason => .error (.refused reason)
  accept t := do
    let a ← d.accept t
    match rule a with
    | .ok b => return b
    | .error reason => .error (.refused reason)

/-- An array of any length. -/
def list (d : Decoder α) (expected : String) : Decoder (List α) where
  scan budget ts :=
    match ts with
    | .openBracket :: rest =>
      Reader.inArray (fun budget => Reader.items (d.scan budget) (.openBracket :: rest) true)
        budget rest
    | ts => do
      let found ← Reader.foundAt ts
      .error (.invalidType found expected)
  accept t :=
    match t with
    | .array items => items.mapM d.accept
    | t => .error (.invalidType t.found expected)

/-- What messages call an array of two items. -/
def pairName : String := "a tuple of size 2"

/-- An array of exactly two items. -/
def pair (a : Decoder α) (b : Decoder β) : Decoder (α × β) where
  scan budget ts :=
    match ts with
    | .openBracket :: rest =>
      Reader.inArray (fun budget ts => do
        let some ts ← Reader.nextItem true ts | .error (.invalidLength 0 pairName)
        let (x, ts) ← a.scan budget ts
        let some ts ← Reader.nextItem false ts | .error (.invalidLength 1 pairName)
        let (y, ts) ← b.scan budget ts
        return ((x, y), ts)) budget rest
    | ts => do
      let found ← Reader.foundAt ts
      .error (.invalidType found pairName)
  accept t :=
    match t with
    | .array [] => .error (.invalidLength 0 pairName)
    | .array [x] => do
      let _ ← a.accept x
      .error (.invalidLength 1 pairName)
    | .array (x :: y :: more) => do
      let x ← a.accept x
      let y ← b.accept y
      if more.isEmpty then return (x, y)
      else .error (.invalidLength (more.length + 2) "fewer elements in array")
    | t => .error (.invalidType t.found pairName)

/-- An object with arbitrary keys. `put` adds a member to what has been read before. -/
def table (d : Decoder α) (start : σ) (put : σ → String → α → σ) : Decoder σ where
  scan budget ts :=
    match ts with
    | .openBrace :: rest =>
      Reader.inObject (fun budget => Reader.members (fun s key ts => do
        let ts ← Reader.afterColon ts
        let (a, ts) ← d.scan budget ts
        return (put s key a, ts)) (.openBrace :: rest) true start) budget rest
    | ts => do
      let found ← Reader.foundAt ts
      .error (.invalidType found "a map")
  accept t :=
    match t with
    | .object members => members.foldlM (fun s m => do
        let a ← d.accept m.2
        return put s m.1 a) start
    | t => .error (.invalidType t.found "a map")

/-- A nested form. `describe` gives the form in terms of itself. The `n`-th approximation reads
what is nested less than `n` deep. -/
def approximation (describe : Decoder α → Decoder α) : Nat → Decoder α
  | 0 => ⟨fun _ _ => .error .recursionLimit, fun _ => .error .recursionLimit⟩
  | n + 1 =>
    { scan := fun budget ts => (describe (approximation describe n)).scan budget ts
      accept := fun t => (describe (approximation describe n)).accept t }

/-- The form that is described in terms of itself. -/
def nested (describe : Decoder α → Decoder α) : Decoder α where
  scan budget ts := (approximation describe (budget + 1)).scan budget ts
  accept t := (approximation describe (t.depth + 1)).accept t

end Decoder

/-- Decode a text: the whole of it has to be one value of the form. -/
def decodeText {α : Type} (d : Decoder α) (text : String) : Except Problem α :=
  Reader.whole (d.scan Reader.levels) (tokens text.toList)

end ParserTables.Json
