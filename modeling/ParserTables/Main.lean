import ParserTables.Command.Run

/-!
# The program

Connects a run to the files, arguments and output streams of the process.
-/

namespace ParserTables.Main

open ParserTables.Command

/-- A failure of the operating system as a file error. -/
def fileError : IO.Error → FileError
  | .noFileOrDirectory .. => .notFound
  | .inappropriateType _ 20 _ => .notDirectory
  | .inappropriateType _ 21 _ => .isDirectory
  | .permissionDenied _ 13 _ => .denied
  | e => .other e.toString

/-- Put a text on a stream and flush the stream. -/
def putOn (stream : IO.FS.Stream) (text : String) : IO (Except String Unit) := do
  try
    stream.putStr text
    stream.flush
    return .ok ()
  catch e => return .error (fileError e).message

/-- Access to the files and streams of the process. -/
def processAccess : Access IO where
  read path := do
    try
      return .ok (← IO.FS.readBinFile path)
    catch e => return .error (fileError e)
  write path text := do
    try
      IO.FS.writeFile path text
      return .ok ()
    catch e => return .error (fileError e)
  print text := do putOn (← IO.getStdout) text
  complain text := do putOn (← IO.getStderr) text

end ParserTables.Main

/-- Run the program and leave with its exit code. -/
def main (args : List String) : IO UInt32 := do
  let outcome ← ParserTables.Command.run ParserTables.Main.processAccess "lrgen" args
  return UInt32.ofNat outcome.code
