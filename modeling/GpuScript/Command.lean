import GpuScript.Pipeline.Basic

namespace GpuScript

/-- How far a probed channel may be off: a percentage of the expected value, or a difference. -/
structure Tolerance where
  isPercent : Bool
  value : Double
  deriving DecidableEq

/-- Where a pipeline command stands, what it runs on, and whether it is timed. -/
structure CommandHead where
  line : Nat
  pipeline : Id Pipeline
  timed : Bool := false
  deriving DecidableEq

structure Rectangle where
  x : Single
  y : Single
  width : Single
  height : Single
  deriving DecidableEq

structure Color where
  red : Single
  green : Single
  blue : Single
  alpha : Single
  deriving DecidableEq

/-- A count in each of three dimensions. -/
structure GridSize where
  x : Nat
  y : Nat
  z : Nat
  deriving DecidableEq

/-- A drawing of vertices from a first one on. -/
structure ArrayDraw where
  indexed : Bool
  instanced : Bool
  topology : Topology
  firstVertex : Nat
  vertexCount : Nat
  firstInstance : Nat := 0
  instanceCount : Nat := 1
  deriving DecidableEq

/-- The binding tables that rays go through. -/
structure RayTables where
  generation : Option String := none
  miss : Option String := none
  hit : Option String := none
  callable : Option String := none
  deriving DecidableEq

/-- What a buffer command binds its buffer as. -/
inductive BufferRole where
  | ssbo
  | ssboDynamic
  | uniform
  | uniformDynamic
  | pushConstant
  | storageImage
  | sampledImage
  | combinedImageSampler
  | uniformTexelBuffer
  | storageTexelBuffer
  deriving DecidableEq, Inhabited

/-- A buffer bound at a slot, and the values written into it. -/
structure BufferWrite where
  role : BufferRole
  buffer : Id Buffer
  sampler : Option (Id Sampler) := none
  slot : BindingSlot := {}
  isSubdata : Bool := false
  offset : Nat := 0
  baseMipLevel : Nat := 0
  dynamicOffset : Nat := 0
  descriptorOffset : Nat := 0
  descriptorRange : Nat := wholeRange
  values : List Value := []
  deriving DecidableEq

/-- How two buffers are compared. -/
inductive BufferComparator where
  | equal
  | rootMeanSquare
  | earthMovers
  deriving DecidableEq, Inhabited

/-- The channels that a probe looks at. -/
inductive ProbeChannels where
  | rgb
  | rgba
  deriving DecidableEq, Inhabited

/-- A check of a point or rectangle of a colour attachment. -/
structure Probe where
  buffer : Id Buffer
  tolerances : List Tolerance := []
  isWholeWindow : Bool := false
  isRectangle : Bool := false
  isRelative : Bool := false
  channels : ProbeChannels := .rgb
  area : Rectangle := ⟨.zero, .zero, .one, .one⟩
  color : Color := ⟨.zero, .zero, .zero, .zero⟩
  deriving DecidableEq

/-- How a probed value is compared with the expected one. -/
inductive ProbeComparator where
  | equal
  | notEqual
  | fuzzyEqual
  | less
  | lessOrEqual
  | greater
  | greaterOrEqual
  deriving DecidableEq, Inhabited

/-- A check of the values of a storage buffer. -/
structure StorageProbe where
  buffer : Id Buffer
  tolerances : List Tolerance := []
  comparator : ProbeComparator
  slot : BindingSlot
  offset : Nat
  format : Id Format
  values : List Value
  deriving DecidableEq

/-- A recorded command. -/
inductive Command where
  | clear (head : CommandHead)
  | clearColor (head : CommandHead) (color : Color)
  | clearDepth (head : CommandHead) (value : Single)
  | clearStencil (head : CommandHead) (value : Nat)
  | drawRect (head : CommandHead) (state : RasterState) (isOrtho isPatch : Bool) (area : Rectangle)
  | drawGrid (head : CommandHead) (state : RasterState) (area : Rectangle) (columns rows : Nat)
  | drawArrays (head : CommandHead) (state : RasterState) (draw : ArrayDraw)
  | compute (head : CommandHead) (groups : GridSize)
  | traceRays (head : CommandHead) (tables : RayTables) (rays : GridSize)
  | patchVertices (head : CommandHead) (count : Nat)
  | entryPoint (head : CommandHead) (stage : ShaderStage) (name : String)
  | buffer (head : CommandHead) (write : BufferWrite)
  | sampler (head : CommandHead) (slot : BindingSlot) (sampler : Id Sampler)
  | topLevel (head : CommandHead) (slot : BindingSlot) (structureId : Id TopLevel)
  | copy (line : Nat) (source target : Id Buffer)
  | compare (line : Nat) (first second : Id Buffer) (comparator : BufferComparator)
      (tolerance : Single)
  | probe (line : Nat) (probe : Probe)
  | probeStorage (line : Nat) (probe : StorageProbe)
  | repeatAll (line : Nat) (count : Nat) (commands : List Command)

namespace Command

/-- The head of a command that runs on a pipeline. -/
def head? : Command → Option CommandHead
  | clear head | clearColor head _ | clearDepth head _ | clearStencil head _
  | drawRect head _ _ _ _ | drawGrid head _ _ _ _ | drawArrays head _ _ | compute head _
  | traceRays head _ _ | patchVertices head _ | entryPoint head _ _ | buffer head _
  | sampler head _ _ | topLevel head _ _ => some head
  | copy .. | compare .. | probe .. | probeStorage .. | repeatAll .. => none

def line : Command → Nat
  | clear head | clearColor head _ | clearDepth head _ | clearStencil head _
  | drawRect head _ _ _ _ | drawGrid head _ _ _ _ | drawArrays head _ _ | compute head _
  | traceRays head _ _ | patchVertices head _ | entryPoint head _ _ | buffer head _
  | sampler head _ _ | topLevel head _ _ => head.line
  | copy line _ _ | compare line _ _ _ _ | probe line _ | probeStorage line _
  | repeatAll line _ _ => line

/-- The pipeline that the command runs on. -/
def pipeline? (command : Command) : Option (Id Pipeline) := command.head?.map (·.pipeline)

/-- The command is to be timed. -/
def isTimed (command : Command) : Bool := command.head?.any (·.timed)

/-- The name of a kind of command for display. -/
def name : Command → String
  | clear .. => "ClearCommand"
  | clearColor .. => "ClearColorCommand"
  | clearDepth .. => "ClearDepthCommand"
  | clearStencil .. => "ClearStencilCommand"
  | drawRect .. => "DrawRectCommand"
  | drawGrid .. => "DrawGridCommand"
  | drawArrays .. => "DrawArraysCommand"
  | compute .. => "ComputeCommand"
  | traceRays .. => "RayTracingCommand"
  | patchVertices .. => "PatchParameterVerticesCommand"
  | entryPoint .. => "EntryPointCommand"
  | buffer .. => "BufferCommand"
  | sampler .. => "SamplerCommand"
  | topLevel .. => "TlasCommand"
  | copy .. => "CopyCommand"
  | compare .. => "CompareBufferCommand"
  | probe .. => "ProbeCommand"
  | probeStorage .. => "ProbeSSBOCommand"
  | repeatAll .. => "RepeatCommand"

end Command

end GpuScript
