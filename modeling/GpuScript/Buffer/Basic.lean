import GpuScript.Format.Basic
import GpuScript.Sampler
import GpuScript.Store

/-! Buffers: named bytes that hold elements of a format. The counts are kept beside the bytes, so a
buffer can be sized before anything is written to it. Counts and sizes are exact numbers: buffers
are taken to stay below 4 GiB, where all of them are 32-bit words. -/
namespace GpuScript

/-- What a buffer is bound as. -/
inductive BufferKind where
  | unknown
  | color
  | depthStencil
  | index
  | sampledImage
  | combinedImageSampler
  | storage
  | storageDynamic
  | uniform
  | uniformDynamic
  | pushConstant
  | vertex
  | storageImage
  | uniformTexelBuffer
  | storageTexelBuffer
  | resolve
  deriving DecidableEq

instance : Inhabited BufferKind := ⟨.unknown⟩

/-- How often a vertex buffer moves on to its next element. -/
inductive InputRate where
  | perVertex
  | perInstance
  deriving DecidableEq

instance : Inhabited InputRate := ⟨.perVertex⟩

/-- A named buffer. -/
structure Buffer where
  name : String
  kind : BufferKind := .unknown
  format : Option Format := none
  /-- The format was picked for want of one, and a later command may replace it. -/
  formatIsDefault : Bool := false
  elementCount : Nat := 0
  /-- The largest size that was recorded; zero stands for none. -/
  recordedSize : Nat := 0
  sampler : Option (Id Sampler) := none
  bytes : Array UInt8 := #[]
  width : Nat := 1
  height : Nat := 1
  depth : Nat := 1
  mipLevels : Nat := 1
  samples : Nat := 1
  deriving DecidableEq

namespace Buffer

/-- Gives a buffer a format of its own. -/
def withFormat (buffer : Buffer) (format : Format) : Buffer :=
  { buffer with format := some format, formatIsDefault := false }

/-- Bytes from one element to the next. -/
def stride (buffer : Buffer) : Nat := (buffer.format.map Format.size).getD 0

/-- Bytes that the elements take, padding included. -/
def size (buffer : Buffer) : Nat := buffer.elementCount * buffer.stride

/-- Bytes from one row of an image to the next. -/
def rowStride (buffer : Buffer) : Nat := buffer.stride * buffer.width

/-- Values that the buffer holds; an element of a packed format is one value. -/
def valueCount (buffer : Buffer) : Nat :=
  match buffer.format with
  | none => 0
  | some format =>
    if format.isPacked then buffer.elementCount else buffer.elementCount * format.inputCount

/-- The largest size of the buffer: the recorded one, or else the present one. -/
def maxSize (buffer : Buffer) : Nat :=
  if buffer.recordedSize ≠ 0 then buffer.recordedSize else buffer.size

/-- The buffer as an image of this extent with one element for each texel. -/
def withExtent (buffer : Buffer) (width height count : Nat) : Buffer :=
  { buffer with width, height, elementCount := count }

end Buffer

end GpuScript
