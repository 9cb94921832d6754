import ParserTables.Command.Files
import ParserTables.Sink

/-!
# Sessions

The surroundings of a run whose streams may fail: a tree of files, and two sinks, which take what
is put on the streams in portions of their own choice. A session keeps what each of them has
taken.
-/

namespace ParserTables

/-- Whether everything has been written, or the reason why it has not. -/
def Written.success {σ : Type} (w : Written σ) : Except String Unit :=
  match w.failure with
  | none => .ok ()
  | some reason => .error reason

namespace Command

/-- The output stream and the error stream. -/
structure Streams (σ τ : Type) where
  output : Sink σ
  errors : Sink τ

/-- The files, the states of the streams, and what the streams have taken so far. -/
structure Session (σ τ : Type) where
  tree : FileTree
  output : σ
  errors : τ
  printed : List UInt8 := []
  complaints : List UInt8 := []

/-- Access to the files and the streams of a session that is carried along. -/
def Streams.access {σ τ : Type} (streams : Streams σ τ) : Access (StateM (Session σ τ)) where
  read path := do return (← get).tree.read path
  write path text := do
    let s ← get
    let (result, tree) := s.tree.write path text
    set { s with tree }
    return result
  print text := do
    let s ← get
    let w := streams.output.writeAndFlush s.output text.toUTF8.toList
    set { s with output := w.state, printed := s.printed ++ w.taken }
    return w.success
  complain text := do
    let s ← get
    let w := streams.errors.writeAndFlush s.errors text.toUTF8.toList
    set { s with errors := w.state, complaints := s.complaints ++ w.taken }
    return w.success

end Command

end ParserTables
