import GpuScript.Dump
import GpuScript.Number.Decimal

namespace GpuScript

/-- What is to be dumped, and how its text is laid out. -/
structure DumpOptions where
  path : Option String := none
  isCompute : Bool := false
  width : Nat := 250
  height : Nat := 250
  isCompact : Bool := false
  deriving DecidableEq

namespace DumpOptions

def target (options : DumpOptions) : SectionTarget :=
  if options.isCompute then .compute else .graphics options.width options.height

/-- The text of a document and the end of its last line. -/
def render (options : DumpOptions) (document : Document) : String :=
  (if options.isCompact then document.compact else document.pretty "") ++ "\n"

/-- Reads options one after the other; a later one overrides an earlier one. -/
def ofOptions : DumpOptions → List String → Option DumpOptions
  | options, [] => some options
  | options, "--compute" :: rest => ofOptions { options with isCompute := true } rest
  | options, "--compact" :: rest => ofOptions { options with isCompact := true } rest
  | options, "--in" :: path :: rest => ofOptions { options with path := some path } rest
  | options, "--width" :: width :: rest => do
    ofOptions { options with width := ← wordOfText? width.toList } rest
  | options, "--height" :: height :: rest => do
    ofOptions { options with height := ← wordOfText? height.toList } rest
  | _, _ => none

/-- The options of a command line that asks for a dump. -/
def ofArguments? : List String → Option DumpOptions
  | "dump" :: options => ofOptions {} options
  | _ => none

/-- How the command is used. -/
def usage : String :=
  "usage: dump --in PATH [--compute] [--width N] [--height N] [--compact]\n"

/-- The dump of a file with this text, or the report of what failed. -/
def run (options : DumpOptions) (path text : String) : Except String String :=
  match dump options.target path text with
  | .ok document => .ok (options.render document)
  | .error fault => .error fault.report

end DumpOptions

end GpuScript
