import GpuScript.ElementType
import GpuScript.ImageFormat

/-! Formats: an element type with a layout rule and, when there is one, an image format. An
element is a row of segments, some of which are padding and take no value. -/
namespace GpuScript

/-- The rule by which an element type is laid out in memory. -/
inductive Layout where
  /-- Uniform buffers: three-row vectors and the columns of matrices take four slots. -/
  | std140
  /-- Storage buffers: columns of three rows take four slots. -/
  | std430
  /-- No padding. -/
  | packed
  deriving DecidableEq

instance : Inhabited Layout := ⟨.std430⟩

/-- One slot of an element in memory. -/
inductive Segment where
  | padding (bytes : Nat)
  | component (component : Component)
  deriving DecidableEq

namespace Segment

def isPadding : Segment → Bool
  | padding _ => true
  | component _ => false

def component? : Segment → Option Component
  | padding _ => none
  | component slot => some slot

def bits : Segment → Nat
  | padding bytes => bytes * 8
  | component slot => slot.bits

def size (segment : Segment) : Nat := bytesFor segment.bits

end Segment

namespace Layout

/-- Padding slots after each column. -/
def paddingRows (layout : Layout) (number : NumberType) : Nat :=
  match layout with
  | .packed => 0
  | .std140 => if 1 < number.columns then 4 - number.rows else if number.rows = 3 then 1 else 0
  | .std430 => if number.rows = 3 then 1 else 0

/-- One column of a number with its padding. -/
def column (layout : Layout) (number : NumberType) : List Segment :=
  number.column.map .component ++
    List.replicate (layout.paddingRows number) (.padding number.scalarSize)

/-- The slots of an element of this type. -/
def segments (layout : Layout) : ElementType → List Segment
  | .number number => (List.replicate number.columns (layout.column number)).flatten
  | .channels list =>
    if list.isPacked then [.component ⟨.red, .unsignedInt, list.packBits⟩]
    else list.members.map .component

end Layout

/-- An element type under a layout, with the image format it is tagged with. -/
structure Format where
  type : ElementType
  layout : Layout := .std430
  tag : Option ImageFormat := none
  deriving DecidableEq

namespace Format

/-- Slots of one element, padding included. -/
def segments (format : Format) : List Segment := format.layout.segments format.type

def size (format : Format) : Nat :=
  format.segments.foldr (fun segment bytes => segment.size + bytes) 0

/-- Values that one element takes. -/
def inputCount (format : Format) : Nat := (format.segments.filter (!·.isPadding)).length

def isPacked (format : Format) : Bool := format.type.isPacked

/-- The components of one column. -/
def components (format : Format) : List Component := format.type.components

/-- Every component has this mode and width. -/
def isUniform (format : Format) (mode : Mode) (bits : Nat) : Bool :=
  format.components.all fun component => component.mode == mode && component.bits == bits

/-- Every component has a normalized mode. -/
def isNormalized (format : Format) : Bool :=
  match format.type with
  | .number number => number.mode.isNormalized
  | .channels list => list.members.all (·.mode.isNormalized)

def hasStencil (format : Format) : Bool := format.tag.any (·.hasStencil)

/-- The format is of a number stored this way; a channel list never is. -/
def isStoredAs (format : Format) (storage : Storage) : Bool :=
  match format.type with
  | .number number => storage.holds number.mode number.bits
  | .channels _ => false

/-- A component with its byte position in the element. -/
structure Slot where
  position : Nat
  component : Component
  deriving DecidableEq

/-- The components among segments that start at a byte position. -/
def slotsFrom : Nat → List Segment → List Slot
  | _, [] => []
  | position, segment :: rest =>
    let later := slotsFrom (position + segment.size) rest
    match segment.component? with
    | some component => ⟨position, component⟩ :: later
    | none => later

/-- The components of one element in the order in which values fill them. -/
def slots (format : Format) : List Slot := slotsFrom 0 format.segments

theorem length_slotsFrom (position : Nat) (segments : List Segment) :
    (slotsFrom position segments).length = (segments.filter (!·.isPadding)).length := by
  induction segments generalizing position with
  | nil => rfl
  | cons segment rest ih =>
    cases segment <;> simp [slotsFrom, Segment.component?, Segment.isPadding, ih]

theorem length_slots (format : Format) : format.slots.length = format.inputCount :=
  length_slotsFrom 0 format.segments

end Format

end GpuScript
