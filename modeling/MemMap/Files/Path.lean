/-!
# MemMap.Files.Path

Paths as texts and as steps. A path is cut at its slashes; empty steps are dropped, but
whether the path ends with a slash is kept, because only a directory may be meant then.

A path is a text, so all paths of this library are UTF-8, and with them the directory and
the file names of a configuration and the arguments of a command line. Paths of other bytes
are left out.
-/

namespace MemMap.Files

/-- The parts of a text between slashes, at least one. -/
def segments : List Char → List (List Char)
  | [] => [[]]
  | c :: r =>
    match segments r with
    | s :: rest => if c = '/' then [] :: s :: rest else (c :: s) :: rest
    | [] => [[c]]

/-- A path by its steps. -/
structure Path where
  /-- Whether it starts at the root. -/
  absolute : Bool
  steps : List String
  /-- Whether it ends with a slash. -/
  trailing : Bool
  deriving DecidableEq, Repr

/-- The steps of a path that is written as `text`. -/
def Path.parse (text : String) : Path where
  absolute := text.toList.head? = some '/'
  steps := ((segments text.toList).filter (!·.isEmpty)).map String.ofList
  trailing := text.toList.getLast? = some '/'

/-- The path of `name` inside `directory`. A slash goes between them unless one is there or
`directory` is empty; an absolute name stands for itself. -/
def joinPath (directory name : String) : String :=
  if name.toList.head? = some '/' then name
  else if directory = "" || directory.toList.getLast? = some '/' then directory ++ name
  else directory ++ "/" ++ name

end MemMap.Files
