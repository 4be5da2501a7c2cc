import GpuScript.Number.Float
import GpuScript.Raster.Basic

namespace GpuScript

/-- How texels are filtered. -/
inductive Filter where
  | nearest
  | linear
  deriving DecidableEq

instance : Inhabited Filter := ⟨.nearest⟩

/-- What coordinates outside of the unit square read. -/
inductive AddressMode where
  | repeated
  | mirroredRepeat
  | clampToEdge
  | clampToBorder
  | mirrorClampToEdge
  deriving DecidableEq

instance : Inhabited AddressMode := ⟨.repeated⟩

/-- The colour that a clamped read outside of the border gives. -/
inductive BorderColor where
  | floatTransparentBlack
  | intTransparentBlack
  | floatOpaqueBlack
  | intOpaqueBlack
  | floatOpaqueWhite
  | intOpaqueWhite
  deriving DecidableEq

instance : Inhabited BorderColor := ⟨.floatTransparentBlack⟩

structure Sampler where
  name : String
  magFilter : Filter := .nearest
  minFilter : Filter := .nearest
  mipmapMode : Filter := .nearest
  addressModeU : AddressMode := .repeated
  addressModeV : AddressMode := .repeated
  addressModeW : AddressMode := .repeated
  borderColor : BorderColor := .floatTransparentBlack
  minLod : Single := .zero
  maxLod : Single := .one
  normalizedCoords : Bool := true
  compareEnable : Bool := false
  compareOp : CompareOp := .never
  deriving DecidableEq

namespace Sampler

/-- The same address mode in all three directions. -/
def withAddressMode (sampler : Sampler) (mode : AddressMode) : Sampler :=
  { sampler with addressModeU := mode, addressModeV := mode, addressModeW := mode }

end Sampler

end GpuScript
