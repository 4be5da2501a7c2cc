import GpuScript.Section.Drawing
import GpuScript.Section.Probing
import GpuScript.Section.Setting
import GpuScript.Section.Storage

/-! Running the statements of a section, in order and up to the first that fails. The fixed-function
state goes back into the pipeline only when all have succeeded. Targets are scripts with a single
pipeline to read a section for. -/
namespace GpuScript

namespace Session

/-- Runs the command that a word names, or refuses the word. -/
def dispatch (name : String) : Edit Session Unit :=
  match name with
  | "draw" => draw
  | "clear" => clear
  | "ssbo" => storage
  | "uniform" => uniform
  | "patch" => patch
  | "probe" => probe false
  | "tolerance" => tolerance
  | "relative" => relativeProbe
  | "compute" => compute
  | "vertex" => stage name .vertex
  | "fragment" => stage name .fragment
  | "geometry" => stage name .geometry
  | "tessellation" => tessellation
  | _ =>
    match Setting.reader? name with
    | some reader => do changeState (← read reader)
    | none => read (Reader.refuseAt "Unknown command" (.word name))

/-- Runs a statement without tying a fault to its line. -/
def perform (statement : Statement) : Edit Session Unit := do
  modify fun session => { session with
    words := ⟨statement.others, statement.closing, statement.first.line⟩ }
  if statement.first.token.isWord then dispatch statement.first.token.text
  else read (Reader.refuseAt
    "Command not recognized. Received something other then a string" statement.first.token)

/-- Runs a statement; a fault is tied to the line after its first token. -/
def execute (statement : Statement) : Edit Session Unit :=
  tryCatch (perform statement) fun fault => throw (fault.atLine statement.first.line)

/-- Gives the pipeline the state of the section. -/
def commit : Edit Session Unit := do
  let _ ← pipeline
  let state := (← get).state
  changePipeline fun pipeline => { pipeline with state }

def run (text : String) (line : Nat) : Edit Session Unit := do
  (Statement.ofText text line).forM execute
  commit

end Session

namespace Script

/-- Reads a section for a pipeline: whether that succeeded, and the session it leaves. -/
def readSection (script : Script) (pipeline : Id Pipeline) (line : Nat) (text : String) :
    Except Fault Unit × Session :=
  (Session.run text line).apply (.start script pipeline)

end Script

/-- The pipeline that a section is read for. -/
inductive SectionTarget where
  | compute
  | graphics (width height : Nat)
  deriving DecidableEq

namespace SectionTarget

def pipeline : SectionTarget → Pipeline
  | .compute => { name := "compute", kind := .compute }
  | .graphics width height => { name := "graphics", kind := .graphics, width, height }

/-- Declares the pipeline; one for graphics draws into a colour attachment made for it. -/
def declare (target : SectionTarget) : Edit Script (Id Pipeline) := do
  let id ← Script.addPipeline target.pipeline
  if target ≠ .compute then
    let color ← Script.addBuffer .defaultColor
    Script.onBench id (Workbench.addColorAttachment color 0 0)
  return id

def script (target : SectionTarget) : Script := (target.declare.apply {}).2

end SectionTarget

end GpuScript
