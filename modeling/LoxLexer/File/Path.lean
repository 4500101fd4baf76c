import LoxLexer.Text.Split

/-!
# Paths

A path is a place to start from and the names to follow from there. Names that lead nowhere (empty ones
and single points) are dropped when a path is read, but a double point is kept, because what it leads
to depends on the files.
-/

namespace LoxLexer

/-- Where a path starts. -/
inductive PathStart where
  /-- At the working directory. -/
  | relative
  /-- At the working directory, which is spelled out under a given name. -/
  | workingDirectory (name : String)
  /-- At the root, written with a number of slashes. -/
  | root (slashes : Nat)
  deriving DecidableEq, Repr, Inhabited

/-- A path. -/
structure Path where
  /-- Where the path starts. -/
  start : PathStart
  /-- The names to follow. -/
  names : List String
  deriving DecidableEq, Repr, Inhabited

namespace Path

/-- The names in a text. -/
def namesOf (text : List Char) : List String :=
  ((Text.splitAt '/' text).filter fun part => part != [] && part != ['.']).map String.ofList

/-- Where a text starts. Two slashes are kept apart from one, but more count as one. -/
def startOf (text : List Char) : PathStart :=
  match (text.takeWhile (· = '/')).length with
  | 0 => .relative
  | 2 => .root 2
  | _ => .root 1

/-- Reads a path. -/
def ofString (text : String) : Path := ⟨startOf text.toList, namesOf text.toList⟩

/-- The path that follows one more name. -/
def child (path : Path) (name : String) : Path := { path with names := path.names ++ [name] }

/-- The written form of a path. -/
def render (path : Path) : String :=
  let names := "/".intercalate path.names
  match path.start with
  | .relative => if path.names.isEmpty then "." else names
  | .workingDirectory name => if path.names.isEmpty then name else name ++ "/" ++ names
  | .root slashes => String.ofList (List.replicate slashes '/') ++ names

/-- Whether a path holds the character that no file name can hold. -/
def hasNul (path : Path) : Bool := path.names.any fun name => name.toList.contains '\x00'

end Path

end LoxLexer
