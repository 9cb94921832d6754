import ParserTables.Json.Decoder

/-!
# Records

A record is written as an object with one member for each field, in any order, or as an array of
its fields in their own order. Members with other keys are passed over. A field that is missing
has to be optional; in an array only fields at the end can be missing.

A decoder of records fills in a draft, field by field. Building the record from the draft fails
for the first field, in the order of the fields, that is missing and not optional.
-/

namespace ParserTables.Json

/-- A field of a record with drafts of type `σ`. Reading its value gives the change that it
makes to the draft. -/
structure Field (σ : Type) where
  name : String
  optional : Bool
  isSet : σ → Bool
  content : Decoder (σ → σ)

namespace Field

variable {σ α : Type}

/-- A field whose value is kept in one place of the draft. -/
def of (name : String) (optional : Bool) (get : σ → Option α) (put : σ → Option α → σ)
    (d : Decoder α) : Field σ :=
  ⟨name, optional, fun s => (get s).isSome, d.map fun a s => put s (some a)⟩

/-- The value of a field that must not be missing. -/
def require (name : String) (value : Option α) : Except Problem α :=
  match value with
  | some a => .ok a
  | none => .error (.missingField name)

end Field

/-- A form of records: the name that messages use, the fields, the empty draft, and the record
that a draft makes. -/
structure Layout (σ α : Type) where
  title : String
  fields : List (Field σ)
  empty : σ
  build : σ → Except Problem α

namespace Layout

variable {σ α : Type} (l : Layout σ α)

/-- What messages want instead of an array that is too short. -/
def arrayName : String :=
  l.title ++ " with " ++ toString l.fields.length ++
    (if l.fields.length = 1 then " element" else " elements")

/-- One member of a record written as an object. -/
def scanMember (budget : Nat) (s : σ) (key : String) : Reader σ := fun ts =>
  match l.fields.find? (·.name == key) with
  | some f =>
    if f.isSet s then .error (.duplicateField key)
    else do
      let ts ← Reader.afterColon ts
      let (change, ts) ← f.content.scan budget ts
      return (change s, ts)
  | none => do
    let ts ← Reader.afterColon ts
    let ts ← passOver [] .value ts
    return (s, ts)

/-- The fields of a record written as an array, of which `count` have been read. -/
def scanItems (budget : Nat) (count : Nat) (s : σ) : List (Field σ) → Reader σ
  | [], ts => .ok (s, ts)
  | f :: fields, ts => do
    match ← Reader.nextItem (count == 0) ts with
    | some ts =>
      let (change, ts) ← f.content.scan budget ts
      scanItems budget (count + 1) (change s) fields ts
    | none =>
      if f.optional then scanItems budget (count + 1) s fields ts
      else .error (.invalidLength count l.arrayName)

/-- The fields of a record in an array of generic values, of which `count` have been taken. -/
def acceptItems (count : Nat) (s : σ) : List (Field σ) → List Tree → Except Problem σ
  | [], _ => .ok s
  | f :: fields, t :: ts => do
    let change ← f.content.accept t
    acceptItems (count + 1) (change s) fields ts
  | f :: fields, [] =>
    if f.optional then acceptItems (count + 1) s fields []
    else .error (.invalidLength count l.arrayName)

/-- One member of a record in a generic object. -/
def acceptMember (s : σ) (member : String × Tree) : Except Problem σ :=
  match l.fields.find? (·.name == member.1) with
  | some f =>
    if f.isSet s then .error (.duplicateField member.1)
    else do
      let change ← f.content.accept member.2
      return change s
  | none => .ok s

/-- A record from the tokens of a text. -/
def scan (budget : Nat) : Reader α := fun ts =>
  match ts with
  | .openBrace :: rest =>
    Reader.inObject (fun budget ts => do
      let (s, ts) ← Reader.members (l.scanMember budget) (.openBrace :: rest) true l.empty ts
      let a ← l.build s
      return (a, ts)) budget rest
  | .openBracket :: rest =>
    Reader.inArray (fun budget ts => do
      let (s, ts) ← l.scanItems budget 0 l.empty l.fields ts
      let a ← l.build s
      return (a, ts)) budget rest
  | ts => do
    let found ← Reader.foundAt ts
    .error (.invalidType found l.title)

/-- A record from a generic value. -/
def accept (t : Tree) : Except Problem α :=
  match t with
  | .object members => do
    let s ← members.foldlM l.acceptMember l.empty
    l.build s
  | .array ts => do
    let s ← l.acceptItems 0 l.empty l.fields ts
    let a ← l.build s
    if ts.length ≤ l.fields.length then return a
    else .error (.invalidLength ts.length "fewer elements in array")
  | t => .error (.invalidType t.found l.title)

end Layout

/-- A record of the given layout. -/
def Decoder.record {σ α : Type} (l : Layout σ α) : Decoder α where
  scan := l.scan
  accept := l.accept

end ParserTables.Json
