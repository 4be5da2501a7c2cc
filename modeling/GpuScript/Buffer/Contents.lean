import GpuScript.Bits.Field
import GpuScript.Buffer.Basic

/-! Sizing buffers and writing values into them. Each operation keeps what it did before it failed.
No buffer is taken to reach 4 GiB: offsets, counts and numbers of bytes are exact, also that of the
bytes that another buffer gives. -/
namespace GpuScript

/-- The value in the representation that a mode stores: floats take doubles, integers take
integers. -/
def Mode.adapt (mode : Mode) (value : Value) : Value :=
  match value, mode.isFloat with
  | .integer _, true => .double value.toDouble
  | .double _, false => .ofInt value.toInt
  | _, _ => value

/-- Cuts a row of bytes to a size, or fills it up with zeros. -/
def resizeBytes (bytes : Array UInt8) (size : Nat) : Array UInt8 :=
  bytes.take size ++ Array.replicate (size - bytes.size) 0

/-- Overwrites the bytes of a range, as far as they exist, with zeros. -/
def zeroBytes (bytes : Array UInt8) (start count : Nat) : Array UInt8 :=
  bytes.mapIdx fun index byte => if start ≤ index ∧ index < start + count then 0 else byte

/-- Puts bytes at a position; the bytes outside of them stay. -/
def pasteBytes (bytes : Array UInt8) (start : Nat) (source : Array UInt8) : Array UInt8 :=
  bytes.mapIdx fun index byte =>
    if start ≤ index then (source[index - start]?).getD byte else byte

namespace Buffer

/-- The size of an element and the number of values it takes; neither is zero. -/
structure Shape where
  size : Nat
  inputs : Nat

/-- The format, or the fault that there is none. -/
def requireFormat (buffer : Buffer) : Except Fault Format :=
  match buffer.format with
  | some format => .ok format
  | none => .error (.buffer (.needsFormat buffer.name))

/-- The shape of an element of a format; a format without components is a fault of the buffer. -/
def shapeOf (buffer : Buffer) (format : Format) : Except Fault Shape :=
  if format.size = 0 ∨ format.inputCount = 0 then .error (.buffer (.noComponents buffer.name))
  else .ok ⟨format.size, format.inputCount⟩

/-- Values from the front of the buffer to the end of a write. -/
def Shape.valuesThrough (shape : Shape) (count offset : Nat) : Nat :=
  offset / shape.size * shape.inputs + count

/-- The elements that hold a number of values. -/
def countFor (buffer : Buffer) (values : Nat) : Except Fault Nat :=
  match buffer.format with
  | none => .ok 0
  | some format =>
    if format.isPacked then .ok values
    else (buffer.shapeOf format).map fun shape => values / shape.inputs

/-- Sizes the buffer to hold a number of values. -/
def setValueCount (values : Nat) : Edit Buffer Unit := do
  let count ← Edit.ofExcept ((← get).countFor values)
  modify fun buffer => { buffer with elementCount := count }

/-- Grows or cuts the bytes to the size of the elements. -/
def fitBytes (buffer : Buffer) : Buffer :=
  { buffer with bytes := resizeBytes buffer.bytes buffer.size }

/-- Where the value with a number goes in elements of a format that begin at a byte. -/
def place? (format : Format) (start number : Nat) : Option Format.Slot :=
  (format.slots[number % format.inputCount]?).map fun slot =>
    { slot with position := start + number / format.inputCount * format.size + slot.position }

/-- Writes one value in the representation of its component. -/
def writeValue (format : Format) (start number : Nat) (value : Value) : Edit Buffer Unit := do
  match place? format start number with
  | none => pure ()
  | some slot =>
    let field : BitField := ⟨8 * slot.position, slot.component.bits⟩
    let bytes ← Edit.ofExcept (field.writeValue (← get).bytes (slot.component.mode.adapt value))
    modify fun buffer => { buffer with bytes }

/-- Writes values from the one with a number on. -/
def writeValues (format : Format) (start : Nat) : Nat → List Value → Edit Buffer Unit
  | _, [] => pure ()
  | number, value :: rest => do
    writeValue format start number value
    writeValues format start (number + 1) rest

/-- Writes values that begin at a byte into the elements that there are; those they fill are cleared
first. -/
def overwrite (format : Format) (shape : Shape) (values : List Value) (offset : Nat) :
    Edit Buffer Unit := do
  modify fitBytes
  let filled := values.length / shape.inputs * shape.size
  modify fun buffer => { buffer with bytes := zeroBytes buffer.bytes offset filled }
  if (← get).elementCount * shape.inputs < values.length then throw (.buffer .tooManyValues)
  writeValues format offset 0 values

/-- Writes values that begin at a byte. The buffer grows to hold them and never shrinks. -/
def setDataAt (values : List Value) (offset : Nat) : Edit Buffer Unit := do
  let format ← Edit.ofExcept (← get).requireFormat
  let shape ← Edit.ofExcept ((← get).shapeOf format)
  let needed := shape.valuesThrough values.length offset
  if (← get).valueCount < needed then setValueCount needed
  overwrite format shape values offset

def setData (values : List Value) : Edit Buffer Unit := setDataAt values 0

/-- Raises the recorded size to cover values that begin at a byte. -/
def recordSize (values : List Value) (offset : Nat) : Edit Buffer Unit := do
  let format ← Edit.ofExcept (← get).requireFormat
  let shape ← Edit.ofExcept ((← get).shapeOf format)
  let needed := shape.valuesThrough values.length offset
  let elements := if format.isPacked then needed else needed / shape.inputs
  let size := elements * shape.size
  if (← get).maxSize < size then modify fun buffer => { buffer with recordedSize := size }

/-- Gives the buffer exactly this many elements. -/
def resizeElements (count : Nat) : Edit Buffer Unit := do
  let format ← Edit.ofExcept (← get).requireFormat
  modify fun buffer => { buffer with
    elementCount := count
    bytes := resizeBytes buffer.bytes (count * format.size) }

/-- Gives the buffer exactly this many bytes, which must be whole elements. -/
def resize (size : Nat) : Edit Buffer Unit := do
  let format ← Edit.ofExcept (← get).requireFormat
  let shape ← Edit.ofExcept ((← get).shapeOf format)
  if size % shape.size ≠ 0 then
    throw (.buffer (.partialElement (← get).name size shape.size))
  modify fun buffer => { buffer with
    elementCount := size / shape.size
    bytes := resizeBytes buffer.bytes size }

/-- Puts the bytes of another buffer at a position and counts the elements anew. -/
def pasteFrom (source : Buffer) (offset : Nat) : Edit Buffer Unit := do
  let format ← Edit.ofExcept (← get).requireFormat
  let shape ← Edit.ofExcept ((← get).shapeOf format)
  modify fun buffer =>
    let bytes := resizeBytes buffer.bytes (max buffer.bytes.size (offset + source.bytes.size))
    { buffer with
      bytes := pasteBytes bytes offset source.bytes
      elementCount := bytes.size / shape.size }

/-- Overwrites the buffer with the bytes of one of the same width, height and element count. -/
def copyFrom (source : Buffer) : Edit Buffer Unit := do
  let target ← get
  if target.width ≠ source.width then throw (.buffer .copyWidth)
  if target.height ≠ source.height then throw (.buffer .copyHeight)
  if target.elementCount ≠ source.elementCount then throw (.buffer .copyCount)
  set { target with bytes := source.bytes }

end Buffer

end GpuScript
