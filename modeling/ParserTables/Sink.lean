import ParserTables.Generation

/-!
# Writing to a sink

A sink takes bytes in portions of its own choice. Offered some bytes, it takes a number of them,
or fails. Writing goes on until everything is taken; a portion without bytes is a failure, since
writing could go on forever. After the last portion the sink is flushed.
-/

namespace ParserTables

/-- What a sink makes of the bytes that it is offered. -/
inductive Portion where
  | taken (count : Nat)
  | failed (reason : String)
deriving DecidableEq

/-- A sink with states of type `σ`. -/
structure Sink (σ : Type) where
  /-- What the sink makes of an offer, and its state afterwards. -/
  offer : σ → List UInt8 → Portion × σ
  /-- The reason why a flush fails, if it does, and the state afterwards. -/
  flush : σ → Option String × σ

/-- The outcome of writing: the bytes that were taken, the state of the sink, and the reason of
a failure. -/
structure Written (σ : Type) where
  taken : List UInt8
  state : σ
  failure : Option String

namespace Sink

variable {σ : Type} (sink : Sink σ)

/-- The failure of a sink that takes nothing. -/
def stuck : String := "failed to write whole buffer"

/-- Offer bytes until all are taken. Every portion that goes on takes at least one byte, so the
number of bytes bounds the number of offers. -/
def writeAll : Nat → σ → List UInt8 → Written σ
  | _, s, [] => ⟨[], s, none⟩
  | 0, s, _ :: _ => ⟨[], s, some stuck⟩
  | steps + 1, s, bytes =>
    match sink.offer s bytes with
    | (.failed reason, s) => ⟨[], s, some reason⟩
    | (.taken 0, s) => ⟨[], s, some stuck⟩
    | (.taken (n + 1), s) =>
      let more := writeAll steps s (bytes.drop (n + 1))
      { more with taken := bytes.take (n + 1) ++ more.taken }

/-- Write all bytes and flush. -/
def writeAndFlush (s : σ) (bytes : List UInt8) : Written σ :=
  let w := sink.writeAll bytes.length s bytes
  match w.failure with
  | some _ => w
  | none =>
    let (failure, s) := sink.flush w.state
    { w with state := s, failure }

end Sink

/-- The outcome of a generation: its fault, if any, and what became of the sink. -/
structure Generated (σ : Type) where
  result : Except Fault Unit
  taken : List UInt8
  state : σ

/-- Generate the source of a document into a sink. -/
def generate {σ : Type} (sink : Sink σ) (s : σ) (settings : Settings) (target : Target)
    (a : Automaton) : Generated σ :=
  match render settings target a with
  | .error fault => ⟨.error fault, [], s⟩
  | .ok text =>
    let w := sink.writeAndFlush s text.toUTF8.toList
    match w.failure with
    | some reason => ⟨.error (.sink reason), w.taken, w.state⟩
    | none => ⟨.ok (), w.taken, w.state⟩

end ParserTables
