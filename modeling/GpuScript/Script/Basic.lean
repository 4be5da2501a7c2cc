import GpuScript.Command
import GpuScript.Format.Name
import GpuScript.Pipeline.Kernel
import GpuScript.Script.Catalog
import GpuScript.Script.Feature

namespace GpuScript

/-- The milliseconds that a fence is waited for unless the script says otherwise. -/
def defaultFenceTimeout : Nat := 10000

structure Script where
  pipelines : Catalog Pipeline := {}
  shaders : Catalog Shader := {}
  buffers : Catalog Buffer := {}
  samplers : Catalog Sampler := {}
  bottomLevels : Catalog BottomLevel := {}
  topLevels : Catalog TopLevel := {}
  formats : Store Format := {}
  types : Store ElementType := {}
  namedTypes : List (String × ElementType) := []
  requiredFeatures : List String := []
  requiredDeviceExtensions : List String := []
  requiredInstanceExtensions : List String := []
  spirvEnvironment : String := ""
  fenceTimeout : Nat := defaultFenceTimeout
  commands : List Command := []

namespace Script

def addPipeline (pipeline : Pipeline) : Edit Script (Id Pipeline) :=
  (Catalog.add "pipeline" pipeline.name pipeline).onPart Script.pipelines
    fun script pipelines => { script with pipelines }

def addShader (shader : Shader) : Edit Script (Id Shader) :=
  (Catalog.add "shader" shader.name shader).onPart Script.shaders
    fun script shaders => { script with shaders }

def addBuffer (buffer : Buffer) : Edit Script (Id Buffer) :=
  (Catalog.add "buffer" buffer.name buffer).onPart Script.buffers
    fun script buffers => { script with buffers }

def addSampler (sampler : Sampler) : Edit Script (Id Sampler) :=
  (Catalog.add "sampler" sampler.name sampler).onPart Script.samplers
    fun script samplers => { script with samplers }

def addBottomLevel (bottom : BottomLevel) : Edit Script (Id BottomLevel) :=
  (Catalog.add "BLAS" bottom.name bottom).onPart Script.bottomLevels
    fun script bottomLevels => { script with bottomLevels }

def addTopLevel (top : TopLevel) : Edit Script (Id TopLevel) :=
  (Catalog.add "TLAS" top.name top).onPart Script.topLevels
    fun script topLevels => { script with topLevels }

def registerFormat (script : Script) (format : Format) : Script :=
  { script with formats := script.formats.push format }

def registerType (script : Script) (type : ElementType) : Script :=
  { script with types := script.types.push type }

/-- Declares a type under a free name. -/
def addType (name : String) (type : ElementType) : Edit Script Unit := do
  if ((← get).namedTypes.lookup name).isSome then throw (.nameTaken "type")
  modify fun script => { script with namedTypes := script.namedTypes ++ [(name, type)] }

/-- The declared type of a name, or the type that a format name spells, which is then kept. -/
def readType (script : Script) (text : String) : Option ElementType × Script :=
  match script.namedTypes.lookup text with
  | some type => (some type, script)
  | none =>
    match ElementType.ofName? text with
    | some type => (some type, script.registerType type)
    | none => (none, script)

def requireFeature (script : Script) (name : String) : Script :=
  { script with requiredFeatures := script.requiredFeatures ++ [name] }

def requireDeviceExtension (script : Script) (name : String) : Script :=
  { script with requiredDeviceExtensions := script.requiredDeviceExtensions ++ [name] }

def requireInstanceExtension (script : Script) (name : String) : Script :=
  { script with requiredInstanceExtensions := script.requiredInstanceExtensions ++ [name] }

/-- Requires an extension of the instance or of the device, as its name says. -/
def requireExtension (script : Script) (name : String) : Script :=
  if name ∈ instanceExtensions then script.requireInstanceExtension name
  else script.requireDeviceExtension name

/-- A pipeline with the stores of the script. -/
def bench? (script : Script) (id : Id Pipeline) : Option Workbench :=
  (script.pipelines.get? id).map fun pipeline =>
    { pipeline, buffers := script.buffers.store, samplers := script.samplers.store }

/-- The script with what became of a pipeline and of its stores. -/
def putBench (script : Script) (id : Id Pipeline) (bench : Workbench) : Script :=
  { script with
    pipelines := { script.pipelines with store := script.pipelines.store.set id bench.pipeline }
    buffers := { script.buffers with store := bench.buffers }
    samplers := { script.samplers with store := bench.samplers } }

/-- Runs an operation on a pipeline and the stores of the script. -/
def onBench {Result : Type} (id : Id Pipeline) (operation : Edit Workbench Result) :
    Edit Script Result := do
  let bench ← Edit.require ((← get).bench? id) (.pipeline (.unknownPipeline id.index))
  operation.onPart (fun _ => bench) fun script bench => script.putBench id bench

def onBuffer {Result : Type} (id : Id Buffer) (operation : Edit Buffer Result) :
    Edit Script Result := do
  let buffer ← Edit.ofExcept ((← get).buffers.store.requireBuffer id)
  operation.onPart (fun _ => buffer) fun script buffer =>
    { script with buffers := { script.buffers with store := script.buffers.store.set id buffer } }

/-- Names the buffers from a number on. -/
def indexBuffers (start : Nat) (script : Script) : Script :=
  { script with buffers := script.buffers.indexFrom Buffer.name start }

/-- Names the samplers from a number on. -/
def indexSamplers (start : Nat) (script : Script) : Script :=
  { script with samplers := script.samplers.indexFrom Sampler.name start }

/-- Declares a copy of a pipeline. Buffers made for the copy are named before its name is looked
at. -/
def copyPipeline (source : Id Pipeline) (name : String) : Edit Script (Id Pipeline) := do
  let before := (← get).buffers.store.size
  let copy ← onBench source (Workbench.copyPipeline name)
  modify (indexBuffers before)
  addPipeline copy

/-- Prepares the kernels of all pipelines. What is made for them gets its name where it is free. -/
def prepareKernels : Edit Script Unit := do
  let script ← get
  (script.pipelines.store.idsFrom 0).forM fun id => onBench id Workbench.prepareKernel
  modify (indexBuffers script.buffers.store.size)
  modify (indexSamplers script.samplers.store.size)

/-- A shader to be compiled, for a pipeline or for none. -/
structure ShaderJob where
  format : ShaderFormat
  stage : ShaderStage
  name : String
  source : String
  optimizations : List String
  targetEnv : String
  words : List Nat
  deriving DecidableEq

/-- The job of a shader that is attached to a pipeline. -/
def attachedJob? (id : Id Shader) (shader : Shader) (pipeline : Pipeline) : Option ShaderJob :=
  (pipeline.shaders.find? (·.shader == id)).map fun attached =>
    { format := shader.format
      stage := shader.stage
      name := pipeline.name ++ "-" ++ shader.name
      source := shader.source
      optimizations := attached.optimizations
      targetEnv := shader.targetEnv
      words := attached.words }

/-- The jobs of a shader: one for each pipeline it is attached to, or one of its own. -/
def jobsOf (script : Script) (id : Id Shader) (shader : Shader) : List ShaderJob :=
  match script.pipelines.store.toList.filterMap (attachedJob? id shader) with
  | [] =>
    [{ format := shader.format
       stage := shader.stage
       name := shader.name
       source := shader.source
       optimizations := []
       targetEnv := shader.targetEnv
       words := [] }]
  | jobs => jobs

def shaderJobs (script : Script) : List ShaderJob :=
  script.shaders.store.toList.zipIdx.flatMap fun entry => script.jobsOf ⟨entry.2⟩ entry.1

end Script

end GpuScript
