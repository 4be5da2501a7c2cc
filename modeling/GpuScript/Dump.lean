import GpuScript.Document.Inventory
import GpuScript.Section.Run

namespace GpuScript

/-- Why a section has no dump. -/
inductive DumpFault where
  /-- The file of the section cannot be read. -/
  | unreadable (path reason : String)
  /-- The pipeline cannot be declared. -/
  | target (cause : Fault)
  /-- A statement of the section fails. -/
  | statement (path : String) (cause : Fault)
  deriving DecidableEq

namespace DumpFault

/-- A message that says what failed, with the cause on indented lines below. -/
def withCause (context cause : String) : String :=
  s!"{context}\n\nCaused by:\n    " ++ "\n    ".intercalate (cause.splitOn "\n")

/-- The report of a fault, which ends its last line. -/
def report (fault : DumpFault) : String :=
  "Error: " ++ (match fault with
    | .unreadable path reason => withCause s!"read test section '{path}'" reason
    | .target cause => cause.display
    | .statement path cause => withCause s!"parse '{path}'" cause.display) ++ "\n"

end DumpFault

namespace Document

/-- A buffer without its bytes, with the largest size that it needs. -/
def ofBufferSize (id : Nat) (buffer : Buffer) : Document :=
  .record [("id", .count id), ("name", .text buffer.name),
    ("format", optional .text (buffer.format.bind fun format => format.type.name?)),
    ("element_count", .count buffer.elementCount), ("max_size_in_bytes", .count buffer.maxSize)]

/-- What a session leaves: the state of a pipeline, all buffers and the commands. -/
def ofSession (pipeline : Pipeline) (session : Session) : Document :=
  .record [("pipeline", .text pipeline.name), ("pipeline_data", ofRasterState pipeline.state),
    ("buffers", .list (session.script.buffers.store.toList.zipIdx.map fun entry =>
      ofBufferSize entry.2 entry.1)),
    ("commands", .list (ofCommands ofRasterState session.commands))]

end Document

def dump (target : SectionTarget) (path text : String) : Except DumpFault Document :=
  match target.declare.apply {} with
  | (.error fault, _) => .error (.target fault)
  | (.ok id, script) =>
    match script.readSection id 1 text with
    | (.error fault, _) => .error (.statement path fault)
    | (.ok (), session) =>
      match session.script.pipelines.get? id with
      | none => .error (.target (.pipeline (.unknownPipeline id.index)))
      | some pipeline => .ok (.ofSession pipeline session)

end GpuScript
