import GpuScript.Buffer.Contents
import GpuScript.Pipeline.Framebuffer

/-! Preparing a compute pipeline whose shader is a kernel with arguments: bindings to arguments get
their slots, and argument values, literal samplers and push constants get storage. -/
namespace GpuScript

/-- The storage of an argument's value: its little-endian bytes, one value for each. A double in
eight bytes is kept, any other becomes a single. -/
def ArgumentValue.byteValues (argument : ArgumentValue) : List Value :=
  let size := argument.format.size
  let code := match argument.value with
    | .integer bits => bits.toNat
    | .double value => if size = 8 then value.bits.toNat else value.toSingle.bits.toNat
  (List.range size).map fun index =>
    .integer (UInt64.ofNat (if 8 ≤ index then 0 else code / 256 ^ index % 256))

/-- How an argument is named in a fault. -/
def ArgumentValue.describe (argument : ArgumentValue) : String :=
  if argument.name ≠ "" then s!"name {argument.name}" else s!"number {argument.ordinal}"

/-- An entry is the place of an argument's value. -/
def ArgumentEntry.holds (entry : ArgumentEntry) (argument : ArgumentValue) : Bool :=
  entry.kind.isPlain &&
    if argument.name ≠ "" then entry.name == argument.name else entry.ordinal == argument.ordinal

/-- An entry is that of the argument with this name or number. -/
def ArgumentEntry.isOf (entry : ArgumentEntry) (name : String) (number : Nat) : Bool :=
  entry.name == name || entry.ordinal == number

namespace Pipeline

/-- The kernel of a pipeline: its first shader, when that is one of a compute pipeline. -/
def kernel? (pipeline : Pipeline) : Option AttachedShader :=
  pipeline.shaders.head?.filter fun attached =>
    pipeline.kind == .compute && attached.format == .openClC

/-- Where the arguments of the kernel's entry point live. -/
def kernelArguments? (pipeline : Pipeline) : Option (List ArgumentEntry) :=
  pipeline.kernel?.bind fun kernel => kernel.arguments? kernel.entryPoint

end Pipeline

namespace SamplerBinding

/-- Takes the slot of an entry when it is that of the binding's argument. -/
def place (entry : ArgumentEntry) : Edit SamplerBinding Unit := do
  let binding ← get
  if entry.isOf binding.argumentName binding.argumentNumber then
    if entry.kind ≠ .sampler then throw (.pipeline .samplerKind)
    set { binding with slot := entry.slot }

/-- Gives an unplaced binding the slot of the last entry of its argument. -/
def resolve (entries : List ArgumentEntry) (binding : SamplerBinding) : Edit SamplerBinding Unit :=
  if binding.slot.isUnbound then entries.forM place else pure ()

end SamplerBinding

namespace BufferKind

/-- The kind of an argument's buffer that was bound without one. -/
def ofArgument? : ArgumentKind → Option BufferKind
  | .ubo | .podUbo => some .uniform
  | .ssbo | .pod => some .storage
  | .roImage => some .sampledImage
  | .woImage => some .storageImage
  | _ => none

/-- The words for the kinds that an argument can be bound as. -/
def argumentWord? : BufferKind → Option String
  | .uniform => some "uniform"
  | .storage => some "storage"
  | .sampledImage => some "read-only image"
  | .storageImage => some "write-only image"
  | _ => none

/-- The kind of a buffer bound to an argument of some kind. -/
def forArgument (kind : BufferKind) (argument : ArgumentKind) (buffer : String) :
    Except Fault BufferKind :=
  if kind = .unknown then
    match ofArgument? argument with
    | some kind => .ok kind
    | none => .error (.pipeline .unhandledBufferType)
  else
    match kind.argumentWord? with
    | none => .error (.pipeline .unhandledBufferType)
    | some word =>
      if ofArgument? argument = some kind then .ok kind
      else .error (.pipeline (.bindingKind buffer word))

end BufferKind

namespace BufferBinding

/-- Takes the slot of an entry when it is that of the binding's argument. -/
def place (buffers : Store Buffer) (entry : ArgumentEntry) : Edit BufferBinding Unit := do
  let binding ← get
  if entry.isOf binding.argumentName binding.argumentNumber then
    let name := ((buffers.get? binding.buffer).map Buffer.name).getD ""
    let kind ← Edit.ofExcept (binding.kind.forArgument entry.kind name)
    set { binding with kind, slot := entry.slot }

/-- Gives an unplaced binding the slot of the last entry of its argument. -/
def resolve (buffers : Store Buffer) (entries : List ArgumentEntry) (binding : BufferBinding) :
    Edit BufferBinding Unit :=
  if binding.slot.isUnbound then entries.forM (place buffers) else pure ()

end BufferBinding

namespace Pipeline

/-- Gives the bindings to kernel arguments their slots. -/
def placeArguments (buffers : Store Buffer) : Edit Pipeline Unit := do
  match (← get).kernelArguments? with
  | none => return
  | some entries =>
    (Edit.onEach (SamplerBinding.resolve entries)).onPart Pipeline.samplers
      fun pipeline samplers => { pipeline with samplers }
    (Edit.onEach (BufferBinding.resolve buffers entries)).onPart Pipeline.buffers
      fun pipeline buffers => { pipeline with buffers }

end Pipeline

/-- The sampler that a literal mask describes, with one mip level. -/
def Sampler.ofMask (slot : BindingSlot) (mask : Nat) : Sampler :=
  let mode : AddressMode := match mask &&& 0xe with
    | 0x0 | 0x2 => .clampToEdge
    | 0x4 => .clampToBorder
    | 0x8 => .mirroredRepeat
    | _ => .repeated
  let filter : Filter :=
    if mask &&& 0x10 ≠ 0 then .nearest else if mask &&& 0x20 ≠ 0 then .linear else .nearest
  { name := s!"literal.{slot.descriptorSet}.{slot.binding}"
    normalizedCoords := mask &&& 0x1 ≠ 0
    magFilter := filter
    minFilter := filter
    addressModeU := mode
    addressModeV := mode
    addressModeW := mode
    minLod := .zero
    maxLod := .zero }

namespace Workbench

/-- The sampler bindings with a sampler made for each mask, the store that holds those, and their
numbers. -/
def makeSamplers (samplers : Store Sampler) :
    List SamplerBinding → List SamplerBinding × Store Sampler × List (Id Sampler)
  | [] => ([], samplers, [])
  | binding :: rest =>
    if binding.sampler.isSome || binding.mask == wordMax then
      let later := makeSamplers samplers rest
      (binding :: later.1, later.2)
    else
      let id := samplers.nextId
      let later := makeSamplers (samplers.push (.ofMask binding.slot binding.mask)) rest
      ({ binding with sampler := some id } :: later.1, later.2.1, id :: later.2.2)

/-- Makes the samplers of literal masks. -/
def makeLiteralSamplers (bench : Workbench) : Workbench :=
  let made := makeSamplers bench.samplers bench.pipeline.samplers
  { bench with
    samplers := made.2.1
    pipeline := { bench.pipeline with
      samplers := made.1
      literalSamplers := bench.pipeline.literalSamplers ++ made.2.2 } }

/-- Adds a buffer to the store without a name of its own in the script. -/
def pushBuffer (buffer : Buffer) : Edit Workbench (Id Buffer) := do
  let id := (← get).buffers.nextId
  modify fun bench => { bench with buffers := bench.buffers.push buffer }
  return id

/-- Makes the push constant buffer of a pipeline that has none. -/
def makePushConstantBuffer : Edit Workbench (Id Buffer) := do
  if (← get).pipeline.pushConstants.isSome then throw (.pipeline .pushConstantsBound)
  let buffer ← pushBuffer
    { name := Buffer.generatedPushConstantName
      kind := .pushConstant
      format := some .unsignedByte }
  onPipeline (modify fun pipeline =>
    { pipeline with pushConstants := some { buffer, kind := .pushConstant } })
  return buffer

/-- Makes the buffer of the plain data arguments at a free slot. -/
def makeArgumentBuffer (slot : BindingSlot) (argument : ArgumentKind) :
    Edit Workbench (Id Buffer) := do
  let bench ← get
  if let some existing := bench.pipeline.bufferAt? slot then
    let name := ((bench.buffers.get? existing).map Buffer.name).getD ""
    throw (.pipeline (.argumentSlotTaken name slot.descriptorSet slot.binding))
  let kind : BufferKind := if argument = .pod then .storage else .uniform
  let pipelineName := bench.pipeline.name
  let buffer ← pushBuffer
    { name := s!"{pipelineName}_pod_buffer_{slot.descriptorSet}_{slot.binding}"
      kind, format := some .unsignedByte }
  onPipeline (modify fun pipeline =>
    { pipeline.addBuffer { buffer, kind, slot } with
      argumentBuffers := pipeline.argumentBuffers ++ [(slot, buffer)] })
  return buffer

/-- The buffer that an argument's value goes to, sized to hold it. -/
def argumentBuffer (kernel : String) (argument : ArgumentValue) (entry : Option ArgumentEntry) :
    Edit Workbench (Id Buffer) := do
  match entry with
  | none => throw (.pipeline (.noArgumentEntry kernel argument.describe))
  | some entry =>
    if entry.kind = .podPushConstant then
      match (← get).pipeline.pushConstants with
      | some binding => return binding.buffer
      | none => makePushConstantBuffer
    else
      let buffer ← match (← get).pipeline.argumentBuffers.lookup entry.slot with
        | some buffer => pure buffer
        | none => makeArgumentBuffer entry.slot entry.kind
      onBuffer buffer do
        if (← get).valueCount < entry.offset + entry.size then
          Buffer.resizeElements (entry.offset + entry.size)
      if entry.size ≠ argument.format.size then
        throw (.pipeline (.argumentSize kernel argument.describe))
      return buffer

/-- Stores the values of kernel arguments one after the other. -/
def storeArguments (kernel : String) (entries : List ArgumentEntry) :
    List ArgumentValue → Edit Workbench Unit
  | [] => pure ()
  | argument :: rest => do
    let entry := entries.find? (·.holds argument)
    let buffer ← argumentBuffer kernel argument entry
    onBuffer buffer
      (Buffer.setDataAt argument.byteValues ((entry.map ArgumentEntry.offset).getD 0))
    storeArguments kernel entries rest

/-- Stores the values of kernel arguments in buffers made for their slots. -/
def makeArgumentBuffers : Edit Workbench Unit := do
  let pipeline := (← get).pipeline
  match pipeline.kernel?, pipeline.kernelArguments? with
  | some kernel, some entries =>
    storeArguments kernel.entryPoint entries pipeline.argumentValues
  | _, _ => return

/-- The bytes of a push constant: its first word is the number of dimensions, which is three, or
else all are zero. -/
def pushConstantBytes (range : PushConstant) : Array UInt8 :=
  match range.kind with
  | .dimensions => (Array.replicate range.size 0).modify 0 fun _ => 3
  | .globalOffset | .regionOffset => Array.replicate range.size 0

/-- Writes a push constant into the buffer, which grows to hold it. -/
def writePushConstant (range : PushConstant) : Edit Buffer Unit := do
  if range.offset % 4 ≠ 0 ∨ range.size % 4 ≠ 0 then
    throw (.pipeline (.unalignedPushConstant range.offset range.size))
  if (← get).size < range.offset + range.size then Buffer.resize (range.offset + range.size)
  modify fun buffer =>
    { buffer with bytes := pasteBytes buffer.bytes range.offset (pushConstantBytes range) }

/-- Makes and fills the push constant buffer of a kernel that reads push constants. -/
def makePushConstants : Edit Workbench Unit := do
  match (← get).pipeline.kernel? with
  | none => return
  | some kernel =>
    if kernel.pushConstants.isEmpty then return
    let buffer ← makePushConstantBuffer
    onBuffer buffer (kernel.pushConstants.forM writePushConstant)

/-- All preparation of a kernel. -/
def prepareKernel : Edit Workbench Unit := do
  let buffers := (← get).buffers
  onPipeline (Pipeline.placeArguments buffers)
  modify makeLiteralSamplers
  makeArgumentBuffers
  makePushConstants

/-- A copy of the pipeline under another name. The copy shares buffers and shaders; buffers made for
argument values are made for it anew, and what it has not got from the pipeline is as in a new
one. -/
def copyPipeline (name : String) : Edit Workbench Pipeline := do
  let source := (← get).pipeline
  let made := source.argumentBuffers.map (·.2)
  let copy : Pipeline :=
    { name
      kind := source.kind
      shaders := source.shaders
      colorAttachments := source.colorAttachments
      vertexBuffers := source.vertexBuffers
      buffers := source.buffers.filter (·.buffer ∉ made)
      depthStencil := source.depthStencil
      indexBuffer := source.indexBuffer
      width := source.width
      height := source.height
      state := source.state
      argumentValues := source.argumentValues }
  if source.argumentBuffers.isEmpty then return copy
  Edit.onPart (fun bench => { bench with pipeline := copy })
    (fun bench changed => { bench with buffers := changed.buffers })
    (do makeArgumentBuffers; return (← get).pipeline)

end Workbench

end GpuScript
