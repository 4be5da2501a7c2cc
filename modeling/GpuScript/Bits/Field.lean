import GpuScript.Bits.SmallFloat
import GpuScript.Value

namespace GpuScript

/-- A row of consecutive bits, counted from the first bit of the first byte. -/
structure BitField where
  offset : Nat
  width : Nat
  deriving DecidableEq

namespace BitField

/-- The byte the field starts in. -/
def firstByte (field : BitField) : Nat := field.offset / 8

/-- Bits of the first byte before the field. -/
def lead (field : BitField) : Nat := field.offset % 8

/-- Bytes the field touches. -/
def span (field : BitField) : Nat := (field.lead + field.width + 7) / 8

/-- Bits before the field within the byte at `index` of its span. -/
def skipped (field : BitField) (index : Nat) : Nat := if index = 0 then field.lead else 0

/-- Bits of the field within the byte at `index` of its span. -/
def covered (field : BitField) (index : Nat) : Nat :=
  if index = 0 then min field.width (8 - field.lead)
  else min (field.lead + field.width - 8 * index) 8

/-- The bits of the byte at `index` of the span that belong to the field. -/
def mask (field : BitField) (index : Nat) : UInt8 :=
  UInt8.ofNat ((2 ^ field.covered index - 1) * 2 ^ field.skipped index)

/-- The byte at `index` of the span with the field's bits taken from the code. -/
def merge (field : BitField) (code : Nat) (index : Nat) (old : UInt8) : UInt8 :=
  let fresh := UInt8.ofNat (code * 2 ^ field.lead / 2 ^ (8 * index))
  (fresh &&& field.mask index) ||| (old &&& ~~~ field.mask index)

/-- Writes the low bits of a code into the field. -/
def write (field : BitField) (bytes : Array UInt8) (code : Nat) : Except Fault (Array UInt8) :=
  if bytes.size - field.firstByte < field.span then
    .error (.codec (.destinationTooSmall field.width))
  else
    .ok ((List.range field.span).foldl
      (fun bytes index => bytes.modify (field.firstByte + index) (field.merge code index)) bytes)

/-- The little-endian number of a row of bytes. -/
def littleEndian (bytes : List UInt8) : Nat :=
  bytes.foldr (fun byte value => byte.toNat + 256 * value) 0

/-- The bits from the field's start on, as far as its span reaches; bytes past the end are zero. -/
def window (field : BitField) (bytes : Array UInt8) : Nat :=
  littleEndian ((List.range field.span).map fun index =>
    bytes.getD (field.firstByte + index) 0) / 2 ^ field.lead

/-- Copies the bits of a field to the front of other bytes. -/
def copy (field : BitField) (source destination : Array UInt8) : Except Fault (Array UInt8) :=
  if 64 < field.width then .error (.codec .fieldWidth)
  else (⟨0, field.width⟩ : BitField).write destination (field.window source)

end BitField

/-- The code of a value in a field of this width: the integer's pattern, or the pattern of the
double, single or small float that has the width. -/
def Value.code (value : Value) (width : Nat) : Except Fault Nat :=
  match value with
  | .integer bits => if width ≤ 64 then .ok bits.toNat else .error (.codec .integerWidth)
  | .double number =>
    if width = 64 then .ok number.bits.toNat
    else if width = 32 then .ok value.toSingle.bits.toNat
    else match SmallFloat.ofWidth? width with
      | some layout => .ok (layout.encode value.toSingle)
      | none => .error (.codec .floatWidth)

/-- Writes a value into a field. -/
def BitField.writeValue (field : BitField) (bytes : Array UInt8) (value : Value) :
    Except Fault (Array UInt8) := do
  field.write bytes (← value.code field.width)

end GpuScript
