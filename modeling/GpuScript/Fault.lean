import GpuScript.Fault.Buffer
import GpuScript.Fault.Pipeline

/-! The faults that operations report, and the shape of an operation on a state that may fail. -/
namespace GpuScript

/-- What can be wrong with an encoding or with the description of one. -/
inductive CodecCause where
  /-- A name spells no type. -/
  | unknownType (name : String)
  /-- No integer field has this width. -/
  | integerWidth
  /-- No float field has this width. -/
  | floatWidth
  /-- A field to be read is wider than a word. -/
  | fieldWidth
  /-- A field does not fit into the bytes it is written to. -/
  | destinationTooSmall (width : Nat)
  /-- No small float has this width. -/
  | smallFloatWidth (width : Nat)
  /-- An unsigned literal is past the signed range. -/
  | integerTooBig
  /-- A token is no number. -/
  | notANumber
  deriving DecidableEq

def CodecCause.message : CodecCause → String
  | .unknownType name => s!"Invalid type provided: {name}"
  | .integerWidth => "Invalid int bits for CopyValueToBuffer"
  | .floatWidth => "Invalid float bits for CopyValueToBuffer"
  | .fieldWidth => "Invalid bits for CopyMemoryToBuffer"
  | .destinationTooSmall width => s!"destination too small for {width} bit copy"
  | .smallFloatWidth width => s!"Invalid small float bits: {width}"
  | .integerTooBig => "uint64_t value too big to fit in double"
  | .notANumber => "Invalid conversion to double"

/-- What a reader of section text objects to, and the spelling of the token it stopped at. -/
structure Complaint where
  rule : String
  found : Option String := none
  deriving DecidableEq

def Complaint.message (complaint : Complaint) : String :=
  match complaint.found with
  | none => complaint.rule
  | some found => complaint.rule ++ ": " ++ found

/-- The family a fault belongs to. -/
inductive FaultKind where
  | validation
  | codec
  | parse
  | other
  deriving DecidableEq

inductive Fault where
  | codec (cause : CodecCause)
  | buffer (cause : BufferCause)
  | pipeline (cause : PipelineCause)
  /-- A name of this kind of entity is taken. -/
  | nameTaken (entity : String)
  | complaint (complaint : Complaint)
  /-- A fault that a caller words itself. -/
  | stated (kind : FaultKind) (text : String)
  /-- A fault found while reading a line of a script. -/
  | located (line : Nat) (cause : Fault)
  deriving DecidableEq

namespace Fault

/-- The words of a fault without its line. -/
def message : Fault → String
  | .codec cause => cause.message
  | .buffer cause => cause.message
  | .pipeline cause => cause.message
  | .nameTaken entity => s!"duplicate {entity} name provided"
  | .complaint objection => objection.message
  | .stated _ text => text
  | .located _ cause => cause.message

def kind : Fault → FaultKind
  | .codec _ => .codec
  | .stated kind _ => kind
  | .located .. => .parse
  | _ => .validation

/-- The words of a fault, after its line when it has one. -/
def display : Fault → String
  | .located line cause => s!"{line}: {cause.message}"
  | fault => fault.message

/-- Ties a fault to a line; one that has a line keeps it. -/
def atLine (fault : Fault) (line : Nat) : Fault :=
  match fault with
  | .located .. => fault
  | fault => .located line fault

theorem message_atLine (fault : Fault) (line : Nat) :
    (fault.atLine line).message = fault.message := by
  cases fault <;> rfl

theorem kind_atLine (fault : Fault) (line : Nat) : (fault.atLine line).kind = .parse := by
  cases fault <;> rfl

end Fault

/-- An operation on a state that may fail; what it did before failing stays done. -/
abbrev Edit (State Result : Type) : Type := ExceptT Fault (StateM State) Result

namespace Edit

/-- Runs an operation: its outcome and the state it leaves, also after a failure. -/
def apply {State Result : Type} (operation : Edit State Result) (state : State) :
    Except Fault Result × State :=
  operation.run.run state

/-- The value, or the fault, of a computation that leaves the state alone. -/
def ofExcept {State Result : Type} : Except Fault Result → Edit State Result
  | .ok result => pure result
  | .error fault => throw fault

/-- The value of an option, or a fault where there is none. -/
def require {State Result : Type} (found : Option Result) (fault : Fault) : Edit State Result :=
  match found with
  | some result => pure result
  | none => throw fault

end Edit

end GpuScript
