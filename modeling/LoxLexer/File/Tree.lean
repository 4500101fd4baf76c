import LoxLexer.File.Path
import LoxLexer.Text.LineEnding
import LoxLexer.Text.Quoted
import LoxLexer.Text.Utf8

/-!
# Files

What a program can find at a path, and what can keep it from reading the text there. A `FileTree` is
the working directory with all that is below it; it answers every path by following its names.
-/

namespace LoxLexer

/-- What keeps a program from a file. -/
inductive FileFault where
  /-- A name does not exist. -/
  | notFound
  /-- The file may not be read. -/
  | denied
  /-- A name that is not the last one is the name of a file. -/
  | notDirectory
  /-- The last name is the name of a directory. -/
  | isDirectory
  /-- A name or the whole path is longer than names or paths can be. -/
  | nameTooLong
  deriving DecidableEq, Repr

/-- The number of a fault. -/
def FileFault.number : FileFault → Nat
  | notFound => 2
  | denied => 13
  | notDirectory => 20
  | isDirectory => 21
  | nameTooLong => 36

/-- The wording of a fault. -/
def FileFault.wording : FileFault → String
  | notFound => "No such file or directory"
  | denied => "Permission denied"
  | notDirectory => "Not a directory"
  | isDirectory => "Is a directory"
  | nameTooLong => "File name too long"

/-- The message for a fault at a path. -/
def FileFault.message (fault : FileFault) (path : Path) : String :=
  "[Errno " ++ toString fault.number ++ "] " ++ fault.wording ++ ": " ++ Text.quoted path.render

/-- What is at a path. -/
inductive FileEntry where
  /-- A file with its bytes. -/
  | file (bytes : List UInt8)
  /-- A directory. -/
  | directory
  deriving DecidableEq, Repr, Inhabited

/-- What is at every path. -/
abbrev FileView := Path → Except FileFault FileEntry

/-- Why there is no text at a path. -/
inductive ReadFault where
  /-- The path cannot be the path of a file. -/
  | nulInPath
  /-- The file cannot be reached. -/
  | file (fault : FileFault)
  /-- The bytes of the file encode no text. -/
  | encoding (fault : Text.Utf8Fault)
  deriving DecidableEq, Repr

/-- The text of a file, with one line feed for each line ending. -/
def FileView.read (view : FileView) (path : Path) : Except ReadFault (List Char) :=
  if path.hasNul then .error .nulInPath
  else match view path with
    | .error fault => .error (.file fault)
    | .ok .directory => .error (.file .isDirectory)
    | .ok (.file bytes) =>
        match Text.decodeUtf8 bytes with
        | .error fault => .error (.encoding fault)
        | .ok text => .ok (Text.unifyLineEndings text)

/-- Whether there is anything at a path. Where this cannot be found out, the fault says why. -/
def FileView.holds (view : FileView) (path : Path) : Except FileFault Bool :=
  if path.hasNul then .ok false
  else match view path with
    | .ok _ => .ok true
    | .error .notFound => .ok false
    | .error .notDirectory => .ok false
    | .error fault => .error fault

/-- The working directory: its files and directories, by their names from there. A directory that
holds something need not be listed. -/
structure FileTree where
  /-- The files and directories. -/
  entries : List (List String × FileEntry)
  deriving Inhabited

namespace FileTree

/-- The greatest number of bytes of a name. -/
def maxNameBytes : Nat := 255

/-- The number of bytes that the written form of a path must stay below. -/
def maxPathBytes : Nat := 4096

/-- What is at the end of a list of names. -/
def find? (tree : FileTree) (names : List String) : Option FileEntry :=
  match tree.entries.lookup names with
  | some entry => some entry
  | none =>
      if tree.entries.any fun entry => names.isPrefixOf entry.1 then some .directory else none

/-- Follows names from a directory: one in the tree, given by its own names, or one outside of it, of
which nothing is known but the directories around it. -/
def follow (tree : FileTree) : Option (List String) → List String → Except FileFault FileEntry
  | _, [] => .ok .directory
  | none, name :: rest =>
      if name = ".." then follow tree none rest
      else if maxNameBytes < name.utf8ByteSize then .error .nameTooLong
      else .error .notFound
  | some here, name :: rest =>
      if name = ".." then follow tree (if here.isEmpty then none else some here.dropLast) rest
      else if maxNameBytes < name.utf8ByteSize then .error .nameTooLong
      else match tree.find? (here ++ [name]) with
        | none => .error .notFound
        | some .directory => follow tree (some (here ++ [name])) rest
        | some (.file bytes) => if rest.isEmpty then .ok (.file bytes) else .error .notDirectory

/-- What is at every path, seen from the working directory. -/
def view (tree : FileTree) : FileView := fun path =>
  if maxPathBytes ≤ path.render.utf8ByteSize then .error .nameTooLong
  else match path.start with
    | .root _ => follow tree none path.names
    | _ => follow tree (some []) path.names

end FileTree

end LoxLexer
