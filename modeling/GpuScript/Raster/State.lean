import GpuScript.Number.Decimal
import GpuScript.Raster.Basic

namespace GpuScript

/-- A viewport rectangle with its depth range. -/
structure Viewport where
  x : Single
  y : Single
  width : Single
  height : Single
  minDepth : Single
  maxDepth : Single
  deriving DecidableEq

/-- The fixed-function state; the colour write mask has a bit for each channel, red first. -/
structure RasterState where
  frontFailOp : StencilOp := .keep
  frontPassOp : StencilOp := .keep
  frontDepthFailOp : StencilOp := .keep
  frontCompareOp : CompareOp := .always
  backFailOp : StencilOp := .keep
  backPassOp : StencilOp := .keep
  backDepthFailOp : StencilOp := .keep
  backCompareOp : CompareOp := .always
  topology : Topology := .triangleStrip
  polygonMode : PolygonMode := .fill
  cullMode : CullMode := .none
  frontFace : FrontFace := .counterClockwise
  depthCompareOp : CompareOp := .always
  logicOp : LogicOp := .clear
  srcColorBlendFactor : BlendFactor := .one
  dstColorBlendFactor : BlendFactor := .zero
  srcAlphaBlendFactor : BlendFactor := .one
  dstAlphaBlendFactor : BlendFactor := .zero
  colorBlendOp : BlendOp := .add
  alphaBlendOp : BlendOp := .add
  frontCompareMask : Nat := wordMax
  frontWriteMask : Nat := wordMax
  frontReference : Nat := 0
  backCompareMask : Nat := wordMax
  backWriteMask : Nat := wordMax
  backReference : Nat := 0
  colorWriteMask : Nat := 15
  enableBlend : Bool := false
  enableDepthTest : Bool := false
  enableDepthWrite : Bool := false
  enableDepthClamp : Bool := false
  enableDepthBias : Bool := false
  enableDepthBoundsTest : Bool := false
  enableStencilTest : Bool := false
  enablePrimitiveRestart : Bool := false
  enableRasterizerDiscard : Bool := false
  enableLogicOp : Bool := false
  lineWidth : Single := .one
  depthBiasConstantFactor : Single := .zero
  depthBiasClamp : Single := .zero
  depthBiasSlopeFactor : Single := .zero
  minDepthBounds : Single := .zero
  maxDepthBounds : Single := .zero
  viewport : Option Viewport := none
  patchControlPoints : Nat := 3
  deriving DecidableEq

instance : Inhabited RasterState := ⟨{}⟩

end GpuScript
