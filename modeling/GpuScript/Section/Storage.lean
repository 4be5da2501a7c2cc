import GpuScript.Format.Datum
import GpuScript.Section.Session

/-! Commands on descriptor buffers: sizing and filling storage buffers, filling uniform buffers and
push constants, and probing storage buffers. A slot without a buffer gets one made for it. -/
namespace GpuScript

namespace Reader

/-- The digits of a binding after its colon; other text after them is passed over. -/
def bindingOf? (text : List Char) : Option Nat :=
  if text.isEmpty then none else some (Decimal.ofDigits (text.takeWhile Char.isDigit))

/-- Reads a slot whose first number is taken: with a colon and a binding after it that number is the
set, and otherwise it is the binding in set zero. -/
def slot (first : Nat) (command : String) : Reader BindingSlot := do
  let token ← peek
  match token.text.toList with
  | ':' :: text =>
    let token ← next
    match bindingOf? text with
    | none => refuseAt s!"Invalid value for {command}" token
    | some binding =>
      if wordLimit ≤ binding then refuseAt s!"binding value too large in {command}" token
      return ⟨first, binding⟩
  | _ => return ⟨0, first⟩

/-- A literal as a value for components of a format; only single and double formats take
literals with a point. -/
def valueOf (command : String) (isFloat : Bool) (token : Token) : Except Fault Value :=
  if isFloat then
    if token.isInteger || token.isDouble then
      token.asDouble.map fun double => .double double.toDouble
    else complain s!"Invalid value provided to {command} command" token
  else if token.isInteger then .ok (.integer token.bits)
  else complain s!"Invalid value provided to {command} command" token

/-- Reads values up to the end of the statement. They come in whole rows, and there is one at
least. -/
def values (command : String) (format : Format) : Reader (List Value) := do
  let isFloat := format.isStoredAs (.float 32) || format.isStoredAs (.float 64)
  let tokens ← takeRest
  let values ← liftM (tokens.mapM (valueOf command isFloat))
  if values.isEmpty || values.length % max format.type.rows 1 != 0 then
    refuse s!"Incorrect number of values provided to {command} command"
  return values

/-- How offsets of a command are refused. -/
structure OffsetRules where
  invalid : String
  negative : String
  /-- The rule on the size of an element. -/
  misaligned : Nat → String

def offset (rules : OffsetRules) (format : Format) : Reader Nat := do
  let token ← integer rules.invalid
  if token.lowSigned < 0 then
    refuseAt rules.negative (.word (toString token.lowSigned))
  if format.size = 0 ∨ token.low % format.size ≠ 0 then refuse (rules.misaligned format.size)
  return token.low

def ssboOffset : OffsetRules :=
  { invalid := "Invalid offset for ssbo command"
    negative := "offset for SSBO must be positive, got"
    misaligned := fun size =>
      s!"offset for SSBO must be a multiple of the data size expected {size}" }

def uniformOffset : OffsetRules :=
  { invalid := "Invalid offset value for uniform command"
    negative := "offset for uniform must be positive, got"
    misaligned := fun _ => "offset for uniform must be multiple of data size" }

/-- How a probe compares values. -/
def comparatorOf? : String → Option ProbeComparator
  | "==" => some .equal
  | "!=" => some .notEqual
  | "~=" => some .fuzzyEqual
  | "<" => some .less
  | "<=" => some .lessOrEqual
  | ">" => some .greater
  | ">=" => some .greaterOrEqual
  | _ => none

def comparator : Reader ProbeComparator := do
  let token ← next
  if !token.isWord then refuseAt "Invalid comparator for probe ssbo command" token
  match comparatorOf? token.text with
  | some comparator => return comparator
  | none => refuseAt "Invalid comparator" token

def format (name : String) : Reader Format :=
  match Format.ofDatum name with
  | .ok format => pure format
  | .error fault => throw fault

end Reader

namespace Session

/-- Adds a buffer with a name made from the number of buffers. -/
def makeBuffer : Edit Session (Id Buffer) := do
  let count := (← get).script.buffers.store.size
  onScript (Script.addBuffer { name := s!"AutoBuf-{count}" })

/-- The buffer at a slot; one is made and bound where there is none. -/
def bufferAt (slot : BindingSlot) (kind : BufferKind) : Edit Session (Id Buffer) := do
  match (← pipeline).bufferAt? slot with
  | some buffer => return buffer
  | none =>
    let buffer ← makeBuffer
    changePipeline fun pipeline => (pipeline.clearBuffers slot).addBuffer { buffer, kind, slot }
    return buffer

def onBuffer {Result : Type} (id : Id Buffer) (operation : Edit Buffer Result) :
    Edit Session Result := onScript (Script.onBuffer id operation)

/-- Keeps a format and its type in the script. -/
def keepFormat (format : Format) : Edit Session Unit :=
  onScript (modify fun script => (script.registerType format.type).registerFormat format)

/-- Gives a buffer a format unless it has one of its own, which must then be the same. -/
def agreeOnFormat (id : Id Buffer) (format : Format) (rule : String) : Edit Session Unit := do
  let buffer ← Edit.ofExcept ((← get).script.buffers.store.requireBuffer id)
  if buffer.format.isSome && !buffer.formatIsDefault then
    if buffer.format ≠ some format then throw (.complaint ⟨rule, none⟩)
  else
    onBuffer id (modify (·.withFormat format))
    keepFormat format

/-- The refusal of a write whose format is not that of the buffer. -/
def writeFormatRule : String := "probe ssbo format does not match buffer format"

/-- What follows `subdata`: a format, an offset and values. -/
def storageData (buffer : Id Buffer) : Edit Session (Nat × List Value) := do
  let token ← read Reader.next
  if !token.isWord then read (Reader.refuseAt "Invalid type for ssbo command" token)
  let format ← read (Reader.format token.text)
  agreeOnFormat buffer format writeFormatRule
  let offset ← read (Reader.offset Reader.ssboOffset format)
  let values ← read (Reader.values "ssbo" format)
  onBuffer buffer (Buffer.recordSize values offset)
  return (offset, values)

/-- A size for a storage buffer. Without a format the buffer counts bytes until one is given. -/
def storageSize (id : Id Buffer) : Edit Session Unit := do
  let token ← read Reader.next
  if token.isEnd then read (Reader.refuseAt "Missing size value for ssbo command" token)
  if !token.isInteger then read (Reader.refuseAt "Invalid size value for ssbo command" token)
  onBuffer id (modify fun buffer => { buffer with elementCount := token.low })
  let buffer ← Edit.ofExcept ((← get).script.buffers.store.requireBuffer id)
  if buffer.format.isNone then
    onBuffer id (modify fun buffer =>
      { buffer.withFormat .signedByte with formatIsDefault := true })
    keepFormat .signedByte
  read (Reader.expectEnd "Extra parameter for ssbo command")

/-- What follows `ssbo`: a slot, and then a size or data. -/
def storage : Edit Session Unit := do
  let head ← headAt (← read Reader.line)
  let first ← read Reader.next
  if first.isEnd then read (Reader.refuse "Missing binding and size values for ssbo command")
  if !first.isInteger then read (Reader.refuse "Invalid binding value for ssbo command")
  let slot ← read (Reader.slot first.low "ssbo command")
  let token ← read Reader.peek
  if token.isWord && token.text != "subdata" then
    read (Reader.refuseAt "Invalid value for ssbo command" token)
  let buffer ← bufferAt slot .storage
  if token.text = "subdata" then
    let _ ← read Reader.next
    let (offset, values) ← storageData buffer
    record (.buffer head { role := .ssbo, buffer, slot, isSubdata := true, offset, values })
  else
    storageSize buffer
    record (.buffer head { role := .ssbo, buffer, slot })

/-- A format, an offset and values for a uniform buffer or push constants. -/
def uniformData (buffer : Id Buffer) (format : Format) : Edit Session (Nat × List Value) := do
  agreeOnFormat buffer format writeFormatRule
  let offset ← read (Reader.offset Reader.uniformOffset format)
  let values ← read (Reader.values "uniform" format)
  onBuffer buffer (Buffer.recordSize values offset)
  return (offset, values)

/-- What follows `uniform ubo`: a slot, a format, an offset and values. -/
def uniformBuffer (head : CommandHead) : Edit Session Unit := do
  let first ← read (Reader.integer "Invalid binding value for uniform ubo command")
  let slot ← read (Reader.slot first.low "uniform ubo command")
  let token ← read Reader.next
  if !token.isWord then read (Reader.refuseAt "Invalid type value for uniform ubo command" token)
  let buffer ← bufferAt slot .uniform
  let format ← read (Reader.format token.text)
  let (offset, values) ← uniformData buffer { format with layout := .std140 }
  record (.buffer head { role := .uniform, buffer, slot, offset, values })

/-- Push constants: a format, an offset and values, which are written into a buffer of their own. -/
def pushConstants (head : CommandHead) (typeName : String) : Edit Session Unit := do
  let buffer ← makeBuffer
  let format ← read (Reader.format typeName)
  let (offset, values) ← uniformData buffer format
  onBuffer buffer (Buffer.setDataAt values offset)
  record (.buffer head { role := .pushConstant, buffer, offset })

def uniform : Edit Session Unit := do
  let head ← headAt (← read Reader.line)
  let token ← read Reader.next
  if token.isEnd then
    read (Reader.refuseAt "Missing binding and size values for uniform command" token)
  if !token.isWord then read (Reader.refuseAt "Invalid type value for uniform command" token)
  if token.text = "ubo" then uniformBuffer head else pushConstants head token.text

/-- What follows `probe ssbo`: a format, a slot, an offset, a comparison and values. -/
def probeStorage : Edit Session Unit := do
  let line ← read Reader.line
  let token ← read Reader.next
  if token.isEnd then read (Reader.refuse "Missing values for probe ssbo command")
  if !token.isWord then read (Reader.refuseAt "Invalid type for probe ssbo command" token)
  let format ← read (Reader.format token.text)
  let first ← read (Reader.integer "Invalid binding value for probe ssbo command")
  let slot ← read (Reader.slot first.low "probe ssbo command")
  let token ← read Reader.peek
  if token.isWord then read (Reader.refuseAt "Invalid value for probe ssbo command" token)
  match (← pipeline).bufferAt? slot with
  | none =>
    throw (.complaint ⟨s!"unable to find buffer at descriptor set {slot.descriptorSet} " ++
      s!"and binding {slot.binding}", none⟩)
  | some buffer =>
    agreeOnFormat buffer format "probe format does not match buffer format"
    let formatId := (← get).script.formats.nextId
    onScript (modify (·.registerFormat format))
    let offset ← read (Reader.integer "Invalid offset for probe ssbo command")
    let comparator ← read Reader.comparator
    let values ← read (Reader.values "probe ssbo" format)
    record (.probeStorage line
      { buffer, tolerances := (← get).tolerances, comparator, slot, offset := offset.low
        format := formatId, values })

end Session

end GpuScript
