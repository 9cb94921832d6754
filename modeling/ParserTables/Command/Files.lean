import ParserTables.Text.Split

/-!
# Files and streams

What the program needs to know of its surroundings: it reads a file as a whole, writes a file as a
whole, and puts texts on two streams, and each of these can fail. `FileTree` is a system of files,
seen from a working directory, as a value. Writing replaces a file or adds one to a directory that
exists; it never makes a directory. A file is emptied before it is written to, so a file without
room for a text is left with the beginning of it.
-/

namespace ParserTables.Command

open ParserTables.Text (pieces)

/-- Why a file cannot be read or written. -/
inductive FileError where
  | notFound
  | notDirectory
  | isDirectory
  | denied
  | nameTooLong
  | tooManyLinks
  | noSpace
  | notText
  | other (reason : String)
deriving DecidableEq

/-- An error in words. -/
def FileError.message : FileError → String
  | .notFound => "No such file or directory (os error 2)"
  | .notDirectory => "Not a directory (os error 20)"
  | .isDirectory => "Is a directory (os error 21)"
  | .denied => "Permission denied (os error 13)"
  | .nameTooLong => "File name too long (os error 36)"
  | .tooManyLinks => "Too many levels of symbolic links (os error 40)"
  | .noSpace => "No space left on device (os error 28)"
  | .notText => "stream did not contain valid UTF-8"
  | .other reason => reason

/-- How files are read and written, and how texts are put on the streams. A stream that does not
take a text gives the reason. -/
structure Access (m : Type → Type) where
  read : String → m (Except FileError ByteArray)
  write : String → String → m (Except FileError Unit)
  /-- Put a text on the output stream and flush the stream. -/
  print : String → m (Except String Unit)
  /-- Put a text on the error stream. -/
  complain : String → m (Except String Unit)

/-- The text of a file that holds these bytes. -/
def textOf (bytes : ByteArray) : Except FileError String :=
  match String.fromUTF8? bytes with
  | some text => .ok text
  | none => .error .notText

/-- What may be done with a file. -/
structure Limits where
  readable : Bool := true
  writable : Bool := true
  /-- The number of bytes that there is room for, if it is bounded. -/
  room : Option Nat := none

/-- What a file is. -/
inductive Content where
  | bytes (content : ByteArray)
  /-- A file that is always empty: what is written to it is lost. -/
  | null
  /-- A file of zeros without end: there is never room for anything else. -/
  | full
  /-- A file that is guarded, or that stands on a disk which is nearly full. -/
  | limited (content : ByteArray) (limits : Limits)

namespace Content

/-- The bytes of what a file holds. A file without end cannot be had as a whole. -/
def read : Content → Except FileError ByteArray
  | .bytes content => .ok content
  | .null => .ok .empty
  | .full => .error (.other "out of memory")
  | .limited content limits => if limits.readable then .ok content else .error .denied

/-- Whether a text can be written to a file, and what the file is afterwards. -/
def write (text : String) : Content → Except FileError Unit × Content
  | .bytes _ => (.ok (), .bytes text.toUTF8)
  | .null => (.ok (), .null)
  | .full => (.error .noSpace, .full)
  | .limited content limits =>
    if limits.writable then
      match limits.room with
      | none => (.ok (), .limited text.toUTF8 limits)
      | some room =>
        if text.utf8ByteSize ≤ room then (.ok (), .limited text.toUTF8 limits)
        else (.error .noSpace, .limited (text.toUTF8.extract 0 room) limits)
    else (.error .denied, .limited content limits)

end Content

/-- A system of files. A path is the list of names from the root. The directories are the root,
the ones that the paths of files go through, and the ones in `directories` with those above
them. Paths that do not start at the root start in the directory `working`. -/
structure FileTree where
  files : List (List String × Content)
  directories : List (List String)
  working : List String
  /-- The names that stand for other paths. -/
  links : List (List String × String) := []
  /-- The directories in which nothing may be looked up. -/
  closed : List (List String) := []
  /-- The directories in which no file may be made. -/
  locked : List (List String) := []
  /-- The number of bytes that there is room for in a new file, if it is bounded. -/
  room : Option Nat := none

namespace FileTree

/-- The directories at the root of a system, and the one with the streams of the process. -/
def usualDirectories : List (List String) :=
  ["proc", "self", "fd"] ::
    ["bin", "boot", "dev", "etc", "home", "lib", "media", "mnt", "opt", "proc", "root", "run",
      "sbin", "srv", "sys", "tmp", "usr", "var"].map fun name => [name]

/-- The devices of a system, and the streams of a process that has nothing to read and has
written nothing yet. -/
def usualDevices : List (List String × Content) := [
  (["dev", "null"], .null),
  (["dev", "full"], .full),
  (["dev", "stdin"], .null),
  (["dev", "stdout"], .bytes .empty),
  (["dev", "stderr"], .bytes .empty)]

/-- The other names of the streams. -/
def usualLinks : List (List String × String) := [
  (["dev", "fd"], "/proc/self/fd"),
  (["proc", "self", "fd", "0"], "/dev/stdin"),
  (["proc", "self", "fd", "1"], "/dev/stdout"),
  (["proc", "self", "fd", "2"], "/dev/stderr")]

/-- A system with these files in a working directory of their own. Their paths start there. -/
def ofFiles (files : List (List String × ByteArray)) : FileTree :=
  let working := ["tmp", "work"]
  { files := files.map (fun f => (working ++ f.1, .bytes f.2)) ++ usualDevices
    directories := working :: usualDirectories
    working
    links := usualLinks }

/-- Where a path leads. A path may end in a slash, as if it were to lead to a directory. -/
inductive Spot where
  | directory
  | file (path : List String) (slash : Bool)
  /-- Nothing, in a directory that exists. -/
  | vacant (path : List String) (slash : Bool)
  /-- A name that is too long, in a directory that exists. -/
  | overlong (slash : Bool)

/-- How far a path leads: to a spot, or to a link, from where other names lead on. -/
inductive Way where
  | arrived (spot : Spot)
  | diverted (directory names : List String)

/-- Whether a path is that of a directory. -/
def isDirectory (t : FileTree) (path : List String) : Bool :=
  path.isEmpty || t.directories.any path.isPrefixOf ||
    t.files.any fun f => path.isPrefixOf f.1 && path.length < f.1.length

/-- Whether a path is that of a file. -/
def isFile (t : FileTree) (path : List String) : Bool := t.files.any (·.1 == path)

/-- The greatest number of bytes of a name. -/
def nameLimit : Nat := 255

/-- The greatest number of bytes of a path. -/
def pathLimit : Nat := 4095

/-- The greatest number of links that are followed. -/
def linkLimit : Nat := 40

/-- The directory that a path starts in, and its names. -/
def start (directory : List String) (path : String) : List String × List String :=
  match path.toList with
  | '/' :: cs => ([], (pieces '/' cs).map String.ofList)
  | cs => (directory, (pieces '/' cs).map String.ofList)

/-- Follow the names of a path from a directory up to the first link. The root is above itself. -/
def walk (t : FileTree) (directory : List String) : List String → Except FileError Way
  | [] => .ok (.arrived .directory)
  | name :: rest =>
    if name = "" then walk t directory rest
    else if t.closed.contains directory then .error .denied
    else if name = "." then walk t directory rest
    else if name = ".." then walk t directory.dropLast rest
    else
      let path := directory ++ [name]
      let last := rest.all (· == "")
      let slash := !rest.isEmpty
      if nameLimit < name.utf8ByteSize then
        if last then .ok (.arrived (.overlong slash)) else .error .nameTooLong
      else
        match t.links.lookup path with
        | some target =>
          let (directory, names) := start directory target
          .ok (.diverted directory (names ++ rest))
        | none =>
          if t.isDirectory path then walk t path rest
          else if t.isFile path then
            if last then .ok (.arrived (.file path slash)) else .error .notDirectory
          else if last then .ok (.arrived (.vacant path slash)) else .error .notFound

/-- Follow the names of a path from a directory, and up to `links` links. -/
def follow (t : FileTree) (links : Nat) (directory names : List String) :
    Except FileError Spot := do
  match ← t.walk directory names with
  | .arrived spot => .ok spot
  | .diverted directory names =>
    match links with
    | 0 => .error .tooManyLinks
    | links + 1 => t.follow links directory names

/-- Where a path leads. -/
def spot (t : FileTree) (path : String) : Except FileError Spot :=
  if pathLimit < path.utf8ByteSize then .error .nameTooLong
  else
    let (directory, names) := start t.working path
    t.follow linkLimit directory names

/-- The content of the file at a path. -/
def read (t : FileTree) (path : String) : Except FileError ByteArray := do
  match ← t.spot path with
  | .directory => .error .isDirectory
  | .vacant _ _ => .error .notFound
  | .overlong _ => .error .nameTooLong
  | .file _ true => .error .notDirectory
  | .file path false =>
    match t.files.lookup path with
    | some content => content.read
    | none => .error .notFound

/-- The file that a text goes to when it is written to a path. A path with a slash at its end is
refused whatever it leads to. -/
def destination (t : FileTree) (path : String) : Except FileError (List String) := do
  match ← t.spot path with
  | .directory | .vacant _ true | .file _ true | .overlong true => .error .isDirectory
  | .overlong false => .error .nameTooLong
  | .vacant path false => if t.locked.contains path.dropLast then .error .denied else .ok path
  | .file path false => .ok path

/-- A file that has just been made. -/
def fresh (t : FileTree) : Content :=
  match t.room with
  | none => .bytes .empty
  | some room => .limited .empty { room }

/-- Whether a text can be written to the file with this path, which is new if there is none, and
the files afterwards. -/
def put (fresh : Content) (path : List String) (text : String) :
    List (List String × Content) → Except FileError Unit × List (List String × Content)
  | [] =>
    let (result, content) := fresh.write text
    (result, [(path, content)])
  | f :: rest =>
    if f.1 = path then
      let (result, content) := f.2.write text
      (result, (path, content) :: rest)
    else
      let (result, rest) := put fresh path text rest
      (result, f :: rest)

/-- Whether a text can be written to a path, and the tree afterwards. -/
def write (t : FileTree) (path : String) (text : String) : Except FileError Unit × FileTree :=
  match t.destination path with
  | .error e => (.error e, t)
  | .ok file =>
    let (result, files) := put t.fresh file text t.files
    (result, { t with files })

/-- Access to the files of a tree that is carried along. The streams take everything. -/
def access : Access (StateM FileTree) where
  read path := do return (← get).read path
  write path text := do
    let (result, t) := (← get).write path text
    set t
    return result
  print _ := return .ok ()
  complain _ := return .ok ()

end FileTree

end ParserTables.Command
