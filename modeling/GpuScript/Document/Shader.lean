import GpuScript.Document.Buffer
import GpuScript.Shader

namespace GpuScript

namespace ShaderStage

def label : ShaderStage → String
  | .compute => "compute"
  | .geometry => "geometry"
  | .fragment => "fragment"
  | .vertex => "vertex"
  | .tessellationControl => "tessellation_control"
  | .tessellationEvaluation => "tessellation_evaluation"
  | .rayGeneration => "ray_generation"
  | .anyHit => "any_hit"
  | .closestHit => "closest_hit"
  | .miss => "miss"
  | .intersection => "intersection"
  | .callable => "callable"

def all : List ShaderStage :=
  [.compute, .geometry, .fragment, .vertex, .tessellationControl, .tessellationEvaluation,
    .rayGeneration, .anyHit, .closestHit, .miss, .intersection, .callable]

instance : Labelled ShaderStage where
  all := all
  label := label
  complete := by intro value; cases value <;> decide
  distinct := by decide

end ShaderStage

namespace ShaderFormat

def label : ShaderFormat → String
  | .standard => "default"
  | .text => "text"
  | .glsl => "glsl"
  | .hlsl => "hlsl"
  | .spirvAsm => "spirv_asm"
  | .spirvHex => "spirv_hex"
  | .openClC => "open_cl_c"
  | .binary => "binary"

def all : List ShaderFormat :=
  [.standard, .text, .glsl, .hlsl, .spirvAsm, .spirvHex, .openClC, .binary]

instance : Labelled ShaderFormat where
  all := all
  label := label
  complete := by intro value; cases value <;> decide
  distinct := by decide

end ShaderFormat

namespace Document

def ofShader (shader : Shader) : Document :=
  .record [("name", .text shader.name), ("shader_type", .text shader.stage.label),
    ("format", .text shader.format.label), ("data", .text shader.source),
    ("binary", listOf .count shader.binary), ("file_path", .text shader.filePath),
    ("target_env", .text shader.targetEnv)]

end Document

end GpuScript
