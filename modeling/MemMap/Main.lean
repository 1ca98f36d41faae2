import MemMap.CommandLine

/-!
# MemMap.Main

The program: its command line on the file system it runs in.
-/

namespace MemMap

open Files

/-- The fault behind an error of the system, by its number where that is known. -/
def faultOfError : IO.Error → Fault
  | .noFileOrDirectory _ 20 _ => .notADirectory
  | .noFileOrDirectory .. => .notFound
  | .inappropriateType _ 21 _ => .isADirectory
  | .inappropriateType _ 20 _ => .notADirectory
  | .resourceExhausted _ 36 _ => .nameTooLong
  | .invalidArgument _ 36 _ => .nameTooLong
  | e => .other (toString e)

/-- Access to the files of the system. A path with a zero character is refused here, because
it would be cut there. -/
def systemAccess : Access IO where
  read path := do
    if path.toList.contains '\x00' then
      return .error .zeroInPath
    try
      return .ok (← IO.FS.readBinFile path)
    catch e =>
      return .error (faultOfError e)
  write path content := do
    if path.toList.contains '\x00' then
      return .error .zeroInPath
    try
      IO.FS.writeBinFile path content
      return .ok ()
    catch e =>
      return .error (faultOfError e)

end MemMap

/-- Respond to the arguments of the command line. -/
def main (arguments : List String) : IO UInt32 := do
  let response ← MemMap.respond MemMap.systemAccess MemMap.Yaml.Fault.message arguments
  (← IO.getStdout).putStr response.output
  (← IO.getStderr).putStr response.errors
  return response.status
