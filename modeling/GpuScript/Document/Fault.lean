import GpuScript.Document.Basic
import GpuScript.Fault
import GpuScript.Label

namespace GpuScript

namespace FaultKind

def label : FaultKind → String
  | .validation => "Validation"
  | .codec => "Codec"
  | .parse => "Parse"
  | .other => "Other"

def all : List FaultKind := [.validation, .codec, .parse, .other]

instance : Labelled FaultKind where
  all := all
  label := label
  complete := by intro value; cases value <;> decide
  distinct := by decide

end FaultKind

namespace Document

/-- A fault's family and its words with the line. -/
def ofFault (fault : Fault) : Document :=
  .record [("error", .text fault.kind.label), ("message", .text fault.display)]

/-- The description of what a computation gives, or of its fault. -/
def ofOutcome {Result : Type} (describe : Result → Document) : Except Fault Result → Document
  | .ok value => describe value
  | .error fault => ofFault fault

end Document

end GpuScript
