import GpuScript.Dump.Options

namespace GpuScript

/-- Prints a report and gives the exit code that goes with it. -/
def stop (report : String) (code : UInt32) : IO UInt32 := do
  (← IO.getStderr).putStr report
  return code

/-- Why a file cannot be read, in the words of the system. -/
def reasonOf : IO.Error → String
  | .noFileOrDirectory .. => "No such file or directory (os error 2)"
  | .permissionDenied .. => "Permission denied (os error 13)"
  | .inappropriateType .. => "Is a directory (os error 21)"
  | fault => fault.toString

end GpuScript

open GpuScript in
/-- Runs the command that the arguments name. -/
def main (arguments : List String) : IO UInt32 := do
  match DumpOptions.ofArguments? arguments with
  | none => stop DumpOptions.usage 2
  | some options =>
    match options.path with
    | none => stop DumpOptions.usage 2
    | some path =>
      match ← (IO.FS.readFile path).toBaseIO with
      | .error fault => stop (DumpFault.unreadable path (reasonOf fault)).report 1
      | .ok text =>
        match options.run path text with
        | .error report => stop report 1
        | .ok text =>
          (← IO.getStdout).putStr text
          return 0
