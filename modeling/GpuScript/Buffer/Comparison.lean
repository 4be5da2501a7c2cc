import GpuScript.Buffer.Contents

namespace GpuScript

namespace Buffer

/-- The way in which two buffers differ in shape, if they do. -/
def mismatch? (buffer other : Buffer) : Option BufferCause :=
  if buffer.format.isNone ∨ other.format ≠ buffer.format then some .formatDiffers
  else if other.elementCount ≠ buffer.elementCount then some .countDiffers
  else if other.width ≠ buffer.width then some .widthDiffers
  else if other.height ≠ buffer.height then some .heightDiffers
  else if other.valueCount ≠ buffer.valueCount then some .valueCountDiffers
  else none

/-- Fails unless the buffers have one format, size and extent. -/
def checkCompatible (buffer other : Buffer) : Except Fault Unit :=
  match buffer.mismatch? other with
  | some cause => .error (.buffer cause)
  | none => .ok ()

/-- A position at which two rows of bytes differ, with both bytes. -/
structure ByteDifference where
  position : Nat
  left : UInt8
  right : UInt8

/-- The differences between two rows of bytes as far as both reach. -/
def differencesFrom : Nat → List UInt8 → List UInt8 → List ByteDifference
  | position, left :: lefts, right :: rights =>
    let later := differencesFrom (position + 1) lefts rights
    if left = right then later else ⟨position, left, right⟩ :: later
  | _, _, _ => []

/-- Compares the bytes of two buffers of one shape. -/
def checkEqual (buffer other : Buffer) : Except Fault Unit := do
  buffer.checkCompatible other
  match differencesFrom 0 buffer.bytes.toList other.bytes.toList with
  | [] => return ()
  | first :: rest =>
    throw (.buffer (.bytesDiffer (rest.length + 1) first.position first.left first.right))

/-- The number in a component whose bits begin at a byte; bytes past the end are zero. -/
def readComponent (bytes : Array UInt8) (slot : Format.Slot) : Except Fault Double := do
  let component := slot.component
  let field : BitField := ⟨8 * slot.position, component.bits⟩
  let raw ← field.copy bytes (Array.replicate 8 0)
  let word := BitField.littleEndian raw.toList
  if (Storage.float 16).holds component.mode component.bits then
    return .ofSingle ((⟨10, true⟩ : SmallFloat).decode (word % 2 ^ 16))
  if (Storage.float 32).holds component.mode component.bits then
    return .ofSingle ⟨UInt32.ofNat word⟩
  if (Storage.float 64).holds component.mode component.bits then
    return ⟨UInt64.ofNat word⟩
  if component.mode.isSigned then return .ofInt ((word : Int).bmod (2 ^ max component.bits 1))
  return .ofInt word

/-- The components of this many elements, in the order of their bytes. -/
def componentSlots (format : Format) (count : Nat) : List Format.Slot :=
  (List.range count).flatMap fun element =>
    format.slots.map fun slot => { slot with position := element * format.size + slot.position }

def readComponents (buffer : Buffer) (format : Format) : Except Fault (List Double) :=
  (componentSlots format buffer.elementCount).mapM (readComponent buffer.bytes)

/-- The sum of the squared differences of two rows of numbers. -/
def squaredError (left right : List Double) : Float :=
  (left.zip right).foldl (fun sum pair =>
    let difference := pair.1.toFloat - pair.2.toFloat
    sum + difference * difference) 0

/-- Fails when the root mean square of the differences is above a tolerance. -/
def checkRootMeanSquare (buffer other : Buffer) (tolerance : Single) : Except Fault Unit := do
  buffer.checkCompatible other
  let format ← buffer.requireFormat
  let left ← buffer.readComponents format
  let right ← other.readComponents format
  let error := (squaredError left right / Float.ofNat left.length).sqrt
  if (Double.ofSingle tolerance).toFloat < error then
    throw (.buffer (.rootMeanSquare (.ofFloat error) tolerance))

/-- The byte at a position, or the fault that the buffer ends before it. -/
def byteAt (buffer : Buffer) (position : Nat) : Except Fault UInt8 :=
  match buffer.bytes[position]? with
  | some byte => .ok byte
  | none => .error (.buffer (.missingBytes buffer.name))

/-- Where the counting of the bytes that begin the components of a channel stands: the byte at which
the next segment begins, the number of the next component in its element, and how often each byte
value has been counted. -/
structure Counting where
  position : Nat := 0
  channel : Nat := 0
  bins : Array Nat := Array.replicate 256 0

/-- Goes past a segment. A component of the channel has its first byte counted. -/
def countSegment (buffer : Buffer) (channels channel : Nat) (counting : Counting)
    (segment : Segment) : Except Fault Counting := do
  let position := counting.position + segment.size
  if segment.isPadding then return { counting with position }
  let next := (counting.channel + 1) % channels
  if counting.channel = channel then
    let byte ← buffer.byteAt counting.position
    return ⟨position, next, counting.bins.modify byte.toNat (· + 1)⟩
  return ⟨position, next, counting.bins⟩

/-- Goes past this many elements. -/
def countElements (buffer : Buffer) (format : Format) (channel : Nat) :
    Nat → Counting → Except Fault Counting
  | 0, counting => return counting
  | elements + 1, counting => do
    let counting ← format.segments.foldlM (buffer.countSegment format.inputCount channel) counting
    buffer.countElements format channel elements counting

/-- How often each byte value begins the component with a number, over all elements. A number that
no component has gives zeros. -/
def histogram (buffer : Buffer) (channel : Nat) : Except Fault (Array Nat) := do
  let format ← buffer.requireFormat
  let counting ← buffer.countElements format channel buffer.elementCount {}
  return counting.bins

/-- The earth mover's distance between two histograms of this many elements each. -/
def earthMovers (left right : Array Nat) (leftCount rightCount : Nat) : Float :=
  let step (state : Float × Float) (pair : Nat × Nat) : Float × Float :=
    let share :=
      Float.ofNat pair.1 / Float.ofNat leftCount - Float.ofNat pair.2 / Float.ofNat rightCount
    let carried := state.1 + share
    (carried, state.2 + carried.abs)
  ((left.zip right).foldl step (0, 0)).2 / Float.ofNat left.size

/-- The larger of a number and one that may be NaN. -/
def larger (current next : Float) : Float := if current < next then next else current

/-- The distance between the histograms of a channel. -/
def channelDistance (buffer other : Buffer) (channel : Nat) : Except Fault Float := do
  let left ← buffer.histogram channel
  let right ← other.histogram channel
  return earthMovers left right buffer.elementCount other.elementCount

/-- Fails when the histograms of some channel are further apart than a tolerance. Only formats of
four unsigned bytes are compared. -/
def checkHistograms (buffer other : Buffer) (tolerance : Single) : Except Fault Unit := do
  buffer.checkCompatible other
  let format ← buffer.requireFormat
  let supported := format.inputCount == 4 && format.segments.all fun segment =>
    segment.component?.any fun component => (Storage.uint 8).holds component.mode component.bits
  if !supported then throw (.buffer .noHistogram)
  let distances ← (List.range 4).mapM (buffer.channelDistance other)
  let distance := distances.foldl larger 0
  if (Double.ofSingle tolerance).toFloat < distance then
    throw (.buffer (.earthMovers (.ofFloat distance) tolerance))

end Buffer

end GpuScript
