namespace GpuScript

/-- The stage of a pipeline that a shader runs in. -/
inductive ShaderStage where
  | compute
  | geometry
  | fragment
  | vertex
  | tessellationControl
  | tessellationEvaluation
  | rayGeneration
  | anyHit
  | closestHit
  | miss
  | intersection
  | callable
  deriving DecidableEq

/-- The language or encoding of a shader. -/
inductive ShaderFormat where
  | standard
  | text
  | glsl
  | hlsl
  | spirvAsm
  | spirvHex
  | openClC
  | binary
  deriving DecidableEq

instance : Inhabited ShaderFormat := ⟨.standard⟩

namespace ShaderStage

/-- The six stages of ray tracing. -/
def isRayTracing : ShaderStage → Bool
  | .rayGeneration | .anyHit | .closestHit | .miss | .intersection | .callable => true
  | _ => false

/-- The stages whose shader may stand alone in a group. -/
def isGeneral : ShaderStage → Bool
  | .rayGeneration | .miss | .callable => true
  | _ => false

end ShaderStage

/-- A named shader module. -/
structure Shader where
  name : String
  stage : ShaderStage
  format : ShaderFormat := .standard
  source : String := ""
  binary : List Nat := []
  filePath : String := ""
  targetEnv : String := ""
  deriving DecidableEq

namespace Shader

/-- The shader with compiled words, which make it a binary one. -/
def withBinary (shader : Shader) (words : List Nat) : Shader :=
  { shader with format := .binary, binary := words }

end Shader

end GpuScript
