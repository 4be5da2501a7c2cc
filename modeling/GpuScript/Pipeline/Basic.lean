import GpuScript.Acceleration
import GpuScript.Pipeline.Binding
import GpuScript.Raster.State
import GpuScript.Value

namespace GpuScript

inductive PipelineKind where
  | graphics
  | compute
  | rayTracing
  deriving DecidableEq

/-- What the last validation found. -/
inductive Validity where
  | draft
  | valid
  | invalid
  deriving DecidableEq

instance : Inhabited Validity := ⟨.draft⟩

/-- A top-level structure bound to a pipeline. -/
structure TopLevelBinding where
  structureId : Id TopLevel
  slot : BindingSlot
  deriving DecidableEq

structure Pipeline where
  name : String
  kind : PipelineKind
  validity : Validity := .draft
  shaders : List AttachedShader := []
  colorAttachments : List BufferBinding := []
  resolveTargets : List BufferBinding := []
  vertexBuffers : List BufferBinding := []
  buffers : List BufferBinding := []
  samplers : List SamplerBinding := []
  topLevels : List TopLevelBinding := []
  depthStencil : Option BufferBinding := none
  indexBuffer : Option (Id Buffer) := none
  pushConstants : Option BufferBinding := none
  width : Nat := 250
  height : Nat := 250
  state : RasterState := {}
  argumentValues : List ArgumentValue := []
  /-- The buffers made for plain data arguments, by slot. -/
  argumentBuffers : List (BindingSlot × Id Buffer) := []
  /-- The samplers made from masks. -/
  literalSamplers : List (Id Sampler) := []
  groups : List ShaderGroup := []
  tables : List BindingTable := []
  maxRayPayloadSize : Nat := 0
  maxRayHitAttributeSize : Nat := 0
  maxRayRecursionDepth : Nat := 1
  createFlags : Nat := 0
  deriving DecidableEq

namespace Pipeline

def isRayTracing (pipeline : Pipeline) : Bool := pipeline.kind == .rayTracing

/-- The fault of a stage that a kind of pipeline does not have. -/
def stageFault? (kind : PipelineKind) (stage : ShaderStage) : Option PipelineCause :=
  match kind with
  | .compute => if stage ≠ .compute then some .onlyComputeShaders else none
  | .graphics =>
    if stage = .compute then some .computeInGraphics
    else if stage.isRayTracing then some .rayTracingInGraphics
    else none
  | .rayTracing => if !stage.isRayTracing then some .onlyRayTracingShaders else none

/-- Changes the first item that a test picks. -/
def updateFirst {Item : Type} (picks : Item → Bool) (change : Item → Item) :
    List Item → List Item
  | [] => []
  | item :: rest =>
    if picks item then change item :: rest else item :: updateFirst picks change rest

/-- Attaches a shader. Outside of ray tracing a stage has one shader: the next one takes the place
of the one before and keeps its settings. -/
def attachShader (id : Id Shader) (shader : Shader) (stage : ShaderStage) : Edit Pipeline Unit := do
  let pipeline ← get
  if let some cause := stageFault? pipeline.kind stage then throw (.pipeline cause)
  if pipeline.shaders.any (·.shader == id) then throw (.pipeline .duplicateShader)
  let shaders := if !pipeline.isRayTracing && pipeline.shaders.any (·.stage == stage) then
      updateFirst (·.stage == stage)
        (fun attached =>
          { attached with shader := id, name := shader.name, format := shader.format })
        pipeline.shaders
    else pipeline.shaders ++ [.fresh id shader stage]
  set { pipeline with shaders }

def shader? (pipeline : Pipeline) (name : String) : Option AttachedShader :=
  pipeline.shaders.find? (·.name == name)

/-- Changes the settings of the shader of a name; `purpose` says which setting in a fault. -/
def changeShader (name purpose : String) (change : AttachedShader → AttachedShader) :
    Edit Pipeline Unit := do
  let pipeline ← get
  if (pipeline.shader? name).isNone then throw (.pipeline (.unknownShader purpose name))
  set { pipeline with shaders := updateFirst (·.name == name) change pipeline.shaders }

/-- Names the entry point of a shader; it can be named once. -/
def setEntryPoint (shader entryPoint : String) : Edit Pipeline Unit := do
  if entryPoint = "" then throw (.pipeline .blankEntryPoint)
  match (← get).shader? shader with
  | none => throw (.pipeline (.unknownShader "entry point" shader))
  | some attached =>
    if attached.entryPoint ≠ "main" then throw (.pipeline .secondEntryPoint)
    changeShader shader "entry point" fun attached => { attached with entryPoint }

/-- The first item that stands twice, at its second place. -/
def firstRepeated? : (seen : List String) → List String → Option String
  | _, [] => none
  | seen, item :: rest => if item ∈ seen then some item else firstRepeated? (item :: seen) rest

/-- Sets the optimizer passes of a shader, none of them twice. -/
def setOptimizations (shader : String) (passes : List String) : Edit Pipeline Unit := do
  if let some pass := firstRepeated? [] passes then throw (.pipeline (.duplicateOptimization pass))
  changeShader shader "optimizations" fun attached => { attached with optimizations := passes }

def setCompileOptions (shader : String) (options : List String) : Edit Pipeline Unit :=
  changeShader shader "compile options" fun attached => { attached with compileOptions := options }

/-- Asks for a subgroup size. -/
def setSubgroupPolicy (shader : String) (size : SubgroupSize) : Edit Pipeline Unit :=
  changeShader shader "required subgroup size" fun attached =>
    { attached with subgroupSize := size }

/-- The sizes that a subgroup can be required to have. -/
def subgroupSizes : List Nat := [1, 2, 4, 8, 16, 32, 64, 128]

/-- Asks for an exact subgroup size. -/
def setSubgroupSize (shader : String) (size : Nat) : Edit Pipeline Unit := do
  if size ∉ subgroupSizes then throw (.pipeline (.subgroupSize size shader))
  setSubgroupPolicy shader (.specific size)

def setVaryingSubgroupSize (shader : String) (value : Bool) : Edit Pipeline Unit :=
  changeShader shader "varying subgroup size" fun attached =>
    { attached with varyingSubgroupSize := value }

def setRequireFullSubgroups (shader : String) (value : Bool) : Edit Pipeline Unit :=
  changeShader shader "require full subgroups" fun attached =>
    { attached with requireFullSubgroups := value }

/-- Records where an argument of a kernel lives. -/
def addArgument (shader kernel : String) (entry : ArgumentEntry) : Edit Pipeline Unit :=
  changeShader shader "descriptor map" (·.addArgument kernel entry)

def addPushConstant (shader : String) (range : PushConstant) : Edit Pipeline Unit :=
  changeShader shader "push constants" fun attached =>
    { attached with pushConstants := attached.pushConstants ++ [range] }

/-- The location of a buffer among the colour attachments. -/
def colorLocation (pipeline : Pipeline) (buffer : Id Buffer) : Except Fault Nat :=
  match pipeline.colorAttachments.find? (·.buffer == buffer) with
  | some binding => .ok binding.location
  | none => .error (.pipeline .notAColorAttachment)

def setIndexBuffer (buffer : Id Buffer) : Edit Pipeline Unit := do
  if (← get).indexBuffer.isSome then throw (.pipeline .indexBufferBound)
  modify fun pipeline => { pipeline with indexBuffer := some buffer }

/-- Binds a vertex buffer at the location that its binding says. -/
def addVertexBuffer (binding : BufferBinding) : Edit Pipeline Unit := do
  if (← get).vertexBuffers.any (·.location == binding.location) then
    throw (.pipeline .vertexLocationTaken)
  modify fun pipeline => { pipeline with vertexBuffers := pipeline.vertexBuffers ++ [binding] }

def setPushConstantBuffer (buffer : Id Buffer) : Edit Pipeline Unit := do
  if (← get).pushConstants.isSome then throw (.pipeline .pushConstantsBound)
  modify fun pipeline => { pipeline with pushConstants := some { buffer, kind := .pushConstant } }

/-- The first buffer at a slot. -/
def bufferAt? (pipeline : Pipeline) (slot : BindingSlot) : Option (Id Buffer) :=
  (pipeline.buffers.find? (·.slot == slot)).map (·.buffer)

def addBuffer (pipeline : Pipeline) (binding : BufferBinding) : Pipeline :=
  { pipeline with buffers := pipeline.buffers ++ [binding] }

/-- Adds a binding, or changes the first one that a test picks. -/
def upsert {Item : Type} (picks : Item → Bool) (change : Item → Item) (fresh : Item)
    (items : List Item) : List Item :=
  if items.any picks then updateFirst picks change items else items ++ [fresh]

/-- Binds a buffer to the argument of a name. -/
def bindBufferByName (pipeline : Pipeline) (buffer : Id Buffer) (kind : BufferKind)
    (name : String) : Pipeline :=
  { pipeline with
    buffers := upsert (·.argumentName == name) (fun binding => { binding with buffer })
      { buffer, kind, slot := .unbound, argumentName := name } pipeline.buffers }

/-- Binds a buffer to the argument of a number. -/
def bindBufferByNumber (pipeline : Pipeline) (buffer : Id Buffer) (kind : BufferKind)
    (number : Nat) : Pipeline :=
  { pipeline with
    buffers := upsert (·.argumentNumber == number) (fun binding => { binding with buffer })
      { buffer, kind, slot := .unbound, argumentNumber := number } pipeline.buffers }

def clearBuffers (pipeline : Pipeline) (slot : BindingSlot) : Pipeline :=
  { pipeline with buffers := pipeline.buffers.filter (·.slot != slot) }

def addSampler (pipeline : Pipeline) (binding : SamplerBinding) : Pipeline :=
  { pipeline with samplers := pipeline.samplers ++ [binding] }

/-- Binds a sampler to the argument of a name. -/
def bindSamplerByName (pipeline : Pipeline) (sampler : Id Sampler) (name : String) : Pipeline :=
  { pipeline with
    samplers := upsert (·.argumentName == name)
      (fun binding => { binding with sampler := some sampler })
      { sampler := some sampler, argumentName := name } pipeline.samplers }

/-- Binds a sampler to the argument of a number. -/
def bindSamplerByNumber (pipeline : Pipeline) (sampler : Id Sampler) (number : Nat) : Pipeline :=
  { pipeline with
    samplers := upsert (·.argumentNumber == number)
      (fun binding => { binding with sampler := some sampler })
      { sampler := some sampler, argumentNumber := number } pipeline.samplers }

def clearSamplers (pipeline : Pipeline) (slot : BindingSlot) : Pipeline :=
  { pipeline with samplers := pipeline.samplers.filter (·.slot != slot) }

def addTopLevel (pipeline : Pipeline) (binding : TopLevelBinding) : Pipeline :=
  { pipeline with topLevels := pipeline.topLevels ++ [binding] }

def addGroup (group : ShaderGroup) : Edit Pipeline Unit := do
  if (← get).groups.any (·.name == group.name) then
    throw (.pipeline (.duplicateGroup group.name))
  modify fun pipeline => { pipeline with groups := pipeline.groups ++ [group] }

/-- The place of the group of a name. -/
def groupIndex? (pipeline : Pipeline) (name : String) : Option Nat :=
  pipeline.groups.findIdx? (·.name == name)

def addTable (table : BindingTable) : Edit Pipeline Unit := do
  if (← get).tables.any (·.name == table.name) then
    throw (.pipeline (.duplicateTable table.name))
  modify fun pipeline => { pipeline with tables := pipeline.tables ++ [table] }

/-- Records the value of a kernel argument. -/
def addArgumentValue (pipeline : Pipeline) (argument : ArgumentValue) : Pipeline :=
  { pipeline with argumentValues := pipeline.argumentValues ++ [argument] }

end Pipeline

end GpuScript
