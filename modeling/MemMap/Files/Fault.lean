/-!
# MemMap.Files.Fault

Why a file could not be read or written.
-/

namespace MemMap.Files

/-- Why a file could not be read or written. -/
inductive Fault where
  /-- Nothing is there, or nothing is on the way there. -/
  | notFound
  /-- The way there leads through a file. -/
  | notADirectory
  /-- A directory is there. -/
  | isADirectory
  /-- A name on the way there, or the whole path, is too long. -/
  | nameTooLong
  /-- The path holds a zero character. -/
  | zeroInPath
  /-- The file holds no text. -/
  | notText
  /-- Anything else, in the words of the system. -/
  | other (account : String)
  deriving DecidableEq, Repr

/-- The account of a fault. -/
def Fault.message : Fault → String
  | .notFound => "No such file or directory (os error 2)"
  | .notADirectory => "Not a directory (os error 20)"
  | .isADirectory => "Is a directory (os error 21)"
  | .nameTooLong => "File name too long (os error 36)"
  | .zeroInPath => "file name contained an unexpected NUL byte"
  | .notText => "stream did not contain valid UTF-8"
  | .other account => account

end MemMap.Files
