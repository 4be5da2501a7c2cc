import GpuScript.Buffer.Basic
import GpuScript.Number.Decimal
import GpuScript.Shader
import GpuScript.Value

namespace GpuScript

/-- A place for a descriptor: a set and a binding in it. -/
structure BindingSlot where
  descriptorSet : Nat := 0
  binding : Nat := 0
  deriving DecidableEq

namespace BindingSlot

/-- The slot of what is bound to a kernel argument and has no place yet. -/
def unbound : BindingSlot := ⟨wordMax, wordMax⟩

def isUnbound (slot : BindingSlot) : Bool := slot == unbound

end BindingSlot

/-- What a kernel argument is bound as. -/
inductive ArgumentKind where
  | unknown
  | ssbo
  | ubo
  | pod
  | podUbo
  | podPushConstant
  | roImage
  | woImage
  | sampler
  deriving DecidableEq

instance : Inhabited ArgumentKind := ⟨.unknown⟩

/-- Plain data arguments, which are given by value. -/
def ArgumentKind.isPlain : ArgumentKind → Bool
  | .pod | .podUbo | .podPushConstant => true
  | _ => false

/-- Where a kernel argument lives; offset and size place plain data in its buffer. -/
structure ArgumentEntry where
  name : String := ""
  kind : ArgumentKind := .unknown
  slot : BindingSlot := {}
  ordinal : Nat := 0
  offset : Nat := 0
  size : Nat := 0
  deriving DecidableEq

/-- What a push constant of a kernel holds. -/
inductive PushConstantKind where
  | dimensions
  | globalOffset
  | regionOffset
  deriving DecidableEq

/-- A range of push constants that a kernel reads. -/
structure PushConstant where
  kind : PushConstantKind
  offset : Nat
  size : Nat
  deriving DecidableEq

/-- The subgroup size that a shader asks for. -/
inductive SubgroupSize where
  | notSet
  | specific (size : Nat)
  | minimum
  | maximum
  deriving DecidableEq

/-- Puts a value at a key in place of the one that is there. -/
def putKey {Key Item : Type} [DecidableEq Key] (key : Key) (item : Item) :
    List (Key × Item) → List (Key × Item)
  | [] => [(key, item)]
  | entry :: entries =>
    if entry.1 = key then (key, item) :: entries else entry :: putKey key item entries

/-- A shader attached to a pipeline, with its settings there. -/
structure AttachedShader where
  shader : Id Shader
  name : String
  format : ShaderFormat
  stage : ShaderStage
  entryPoint : String := "main"
  optimizations : List String := []
  subgroupSize : SubgroupSize := .notSet
  compileOptions : List String := []
  varyingSubgroupSize : Bool := false
  requireFullSubgroups : Bool := false
  emitDebugInfo : Bool := false
  /-- Specialization constants by number. -/
  specialization : List (Nat × Nat) := []
  /-- Compiled words. -/
  words : List Nat := []
  /-- Where the arguments of each kernel live. -/
  argumentMap : List (String × List ArgumentEntry) := []
  pushConstants : List PushConstant := []
  deriving DecidableEq

namespace AttachedShader

/-- A shader attached without any settings. -/
def fresh (id : Id Shader) (shader : Shader) (stage : ShaderStage) : AttachedShader :=
  { shader := id, name := shader.name, format := shader.format, stage }

/-- Where the arguments of a kernel live. -/
def arguments? (attached : AttachedShader) (kernel : String) : Option (List ArgumentEntry) :=
  attached.argumentMap.lookup kernel

/-- Records where one more argument of a kernel lives. -/
def addArgument (attached : AttachedShader) (kernel : String) (entry : ArgumentEntry) :
    AttachedShader :=
  { attached with
    argumentMap := putKey kernel ((attached.arguments? kernel).getD [] ++ [entry])
      attached.argumentMap }

end AttachedShader

/-- The range that stands for the whole of a buffer. -/
def wholeRange : Nat := 2 ^ 64 - 1

/-- A buffer bound to a pipeline. An empty name and the largest number stand for no argument. -/
structure BufferBinding where
  buffer : Id Buffer
  kind : BufferKind
  slot : BindingSlot := {}
  location : Nat := 0
  baseMipLevel : Nat := 0
  dynamicOffset : Nat := 0
  argumentName : String := ""
  argumentNumber : Nat := wordMax
  inputRate : InputRate := .perVertex
  format : Option Format := none
  offset : Nat := 0
  stride : Nat := 0
  sampler : Option (Id Sampler) := none
  descriptorOffset : Nat := 0
  descriptorRange : Nat := wholeRange
  deriving DecidableEq

/-- A sampler bound to a pipeline, or the mask of one that is still to be made. -/
structure SamplerBinding where
  sampler : Option (Id Sampler)
  slot : BindingSlot := .unbound
  argumentName : String := ""
  argumentNumber : Nat := wordMax
  mask : Nat := wordMax
  deriving DecidableEq

/-- The value of a kernel argument; with an empty name its number counts. -/
structure ArgumentValue where
  name : String
  ordinal : Nat
  format : Format
  value : Value
  deriving DecidableEq

end GpuScript
