import GpuScript.Script.Basic
import GpuScript.Section.Statement

/-! Sessions: what the statements of a section work on. State commands edit a copy of the pipeline's
fixed-function state; buffers and bindings of the script are changed at once. -/
namespace GpuScript

structure Session where
  script : Script
  pipelineId : Id Pipeline
  state : RasterState
  commands : List Command := []
  tolerances : List Tolerance := []
  words : Words := ⟨[], ⟨.endOfText, 0⟩, 0⟩

namespace Session

/-- A session that has read nothing. -/
def start (script : Script) (pipelineId : Id Pipeline) : Session :=
  { script, pipelineId
    state := ((script.pipelines.get? pipelineId).map Pipeline.state).getD {} }

/-- Reads tokens of the statement at hand. -/
def read {Result : Type} (reader : Reader Result) : Edit Session Result :=
  ExceptT.mk fun session =>
    match reader.run session.words with
    | .ok (result, words) => (.ok result, { session with words })
    | .error fault => (.error fault, session)

/-- Runs an operation on the script. -/
def onScript {Result : Type} (operation : Edit Script Result) : Edit Session Result :=
  operation.onPart Session.script fun session script => { session with script }

def pipeline : Edit Session Pipeline := do
  let session ← get
  Edit.require (session.script.pipelines.get? session.pipelineId)
    (.pipeline (.unknownPipeline session.pipelineId.index))

def changePipeline (change : Pipeline → Pipeline) : Edit Session Unit := do
  let id := (← get).pipelineId
  onScript (Script.onBench id (Workbench.onPipeline (modify change)))

/-- Where a command of the section's pipeline stands. -/
def headAt (line : Nat) : Edit Session CommandHead := do
  return { line, pipeline := (← get).pipelineId }

def record (command : Command) : Edit Session Unit :=
  modify fun session => { session with commands := session.commands ++ [command] }

/-- Changes the fixed-function state of the section. -/
def changeState (change : RasterState → RasterState) : Edit Session Unit :=
  modify fun session => { session with state := change session.state }

end Session

end GpuScript
