import GpuScript.Format.Name
import GpuScript.Pipeline.Basic

/-! The attachments of a pipeline's framebuffer. They are as large as the framebuffer, doubled for
each base mip level, and the buffers behind them are sized when they are bound. -/
namespace GpuScript

/-- A pipeline with the stores of what is bound to it. -/
structure Workbench where
  pipeline : Pipeline
  buffers : Store Buffer := {}
  samplers : Store Sampler := {}

namespace Edit

/-- Runs an operation on a part of the state. -/
def onPart {Whole Part Result : Type} (view : Whole → Part) (put : Whole → Part → Whole)
    (operation : Edit Part Result) : Edit Whole Result :=
  ExceptT.mk fun whole =>
    let outcome := operation.apply (view whole)
    (outcome.1, put whole outcome.2)

/-- Runs an operation on the items of a list in order, up to the first failure. -/
def onEach {Item : Type} (operation : Item → Edit Item Unit) : Edit (List Item) Unit :=
  ExceptT.mk go
where
  go : List Item → Except Fault Unit × List Item
    | [] => (.ok (), [])
    | item :: rest =>
      match (operation item).apply item with
      | (.error fault, changed) => (.error fault, changed :: rest)
      | (.ok (), changed) =>
        let later := go rest
        (later.1, changed :: later.2)

end Edit

/-- Width, height and texel count of an image. -/
structure Extent where
  width : Nat
  height : Nat
  count : Nat
  deriving DecidableEq

/-- The extent of a framebuffer at a mip level; none of its numbers may be past a word. -/
def attachmentExtent (width height mipLevel : Nat) : Except Fault Extent :=
  let tooLarge : Except Fault Extent :=
    .error (.pipeline (.framebufferTooLarge width height mipLevel))
  if 32 ≤ mipLevel then tooLarge
  else
    let wide := width * 2 ^ mipLevel
    let high := height * 2 ^ mipLevel
    if wordLimit ≤ wide ∨ wordLimit ≤ high ∨ wordLimit ≤ wide * high then tooLarge
    else .ok ⟨wide, high, wide * high⟩

/-- The buffer of a number, or the fault that there is none. -/
def Store.requireBuffer (buffers : Store Buffer) (id : Id Buffer) : Except Fault Buffer :=
  match buffers.get? id with
  | some buffer => .ok buffer
  | none => .error (.pipeline (.unknownBuffer id.index))

theorem Store.requireBuffer_ok_iff {buffers : Store Buffer} {id : Id Buffer} {buffer : Buffer} :
    buffers.requireBuffer id = .ok buffer ↔ buffers.get? id = some buffer := by
  unfold requireBuffer
  cases buffers.get? id <;> simp

namespace Workbench

def onPipeline {Result : Type} (operation : Edit Pipeline Result) : Edit Workbench Result :=
  operation.onPart Workbench.pipeline fun bench pipeline => { bench with pipeline }

def onBuffer {Result : Type} (id : Id Buffer) (operation : Edit Buffer Result) :
    Edit Workbench Result := do
  let buffer ← Edit.ofExcept ((← get).buffers.requireBuffer id)
  operation.onPart (fun _ => buffer) fun bench buffer =>
    { bench with buffers := bench.buffers.set id buffer }

/-- Sizes a buffer as an image. -/
def sizeBuffer (id : Id Buffer) (extent : Extent) : Edit Workbench Unit :=
  onBuffer id (modify fun buffer => buffer.withExtent extent.width extent.height extent.count)

/-- Sizes a buffer to the framebuffer at a mip level. -/
def fitToFramebuffer (id : Id Buffer) (mipLevel : Nat) : Edit Workbench Unit := do
  let pipeline := (← get).pipeline
  let extent ← Edit.ofExcept (attachmentExtent pipeline.width pipeline.height mipLevel)
  sizeBuffer id extent

/-- The fault of a colour attachment whose location or buffer is bound. -/
def colorFault? (attachments : List BufferBinding) (buffer : Id Buffer) (location : Nat) :
    Option PipelineCause :=
  attachments.findSome? fun attachment =>
    if attachment.location = location then some .colorLocationTaken
    else if attachment.buffer = buffer then some .colorBufferBound
    else none

def addColorAttachment (buffer : Id Buffer) (location mipLevel : Nat) : Edit Workbench Unit := do
  if let some cause := colorFault? (← get).pipeline.colorAttachments buffer location then
    throw (.pipeline cause)
  fitToFramebuffer buffer mipLevel
  onPipeline (modify fun pipeline => { pipeline with
    colorAttachments := pipeline.colorAttachments ++
      [{ buffer, kind := .color, location, baseMipLevel := mipLevel }] })

/-- Binds a target that a multisampled attachment is resolved into. -/
def addResolveTarget (buffer : Id Buffer) : Edit Workbench Unit := do
  fitToFramebuffer buffer 0
  onPipeline (modify fun pipeline => { pipeline with
    resolveTargets := pipeline.resolveTargets ++ [{ buffer, kind := .resolve }] })

def setDepthStencil (buffer : Id Buffer) : Edit Workbench Unit := do
  if (← get).pipeline.depthStencil.isSome then throw (.pipeline .depthBufferBound)
  fitToFramebuffer buffer 0
  onPipeline (modify fun pipeline => { pipeline with
    depthStencil := some { buffer, kind := .depthStencil } })

/-- Sizes each colour attachment to the framebuffer at its own mip level. -/
def fitColorAttachments : List BufferBinding → Edit Workbench Unit
  | [] => pure ()
  | attachment :: rest => do
    fitToFramebuffer attachment.buffer attachment.baseMipLevel
    fitColorAttachments rest

/-- Sizes the colour and depth attachments to the framebuffer, unless it is empty. -/
def fitAttachments : Edit Workbench Unit := do
  let pipeline := (← get).pipeline
  let extent ← Edit.ofExcept (attachmentExtent pipeline.width pipeline.height 0)
  if extent.count = 0 then return
  fitColorAttachments pipeline.colorAttachments
  match pipeline.depthStencil with
  | none => return
  | some depth => sizeBuffer depth.buffer extent

end Workbench

namespace Format

/-- Four normalized bytes, blue first. -/
def defaultColor : Format :=
  .ofType (.channels ⟨[⟨.blue, .unsignedNorm, 8⟩, ⟨.green, .unsignedNorm, 8⟩,
    ⟨.red, .unsignedNorm, 8⟩, ⟨.alpha, .unsignedNorm, 8⟩], 0⟩)

/-- A float of depth and a byte of stencil. -/
def defaultDepth : Format :=
  .ofType (.channels ⟨[⟨.depth, .signedFloat, 32⟩, ⟨.stencil, .unsignedInt, 8⟩], 0⟩)

def unsignedByte : Format := .ofType (.number { mode := .unsignedInt, bits := 8 })

def signedByte : Format := .ofType (.number { mode := .signedInt, bits := 8 })

end Format

namespace Buffer

def generatedColorName : String := "framebuffer"

def generatedDepthName : String := "depth_buffer"

def generatedPushConstantName : String := "push_constant_buffer"

/-- The colour attachment of a pipeline without one of its own. -/
def defaultColor : Buffer :=
  { name := generatedColorName, kind := .color, format := some .defaultColor }

/-- The depth attachment of a pipeline without one of its own. -/
def defaultDepth : Buffer :=
  { name := generatedDepthName, kind := .depthStencil, format := some .defaultDepth }

end Buffer

end GpuScript
