namespace GpuScript

/-- The names of the image formats. -/
def imageFormatNames : List String :=
  ["A1R5G5B5_UNORM_PACK16", "A2B10G10R10_SINT_PACK32", "A2B10G10R10_SNORM_PACK32",
    "A2B10G10R10_SSCALED_PACK32", "A2B10G10R10_UINT_PACK32", "A2B10G10R10_UNORM_PACK32",
    "A2B10G10R10_USCALED_PACK32", "A2R10G10B10_SINT_PACK32", "A2R10G10B10_SNORM_PACK32",
    "A2R10G10B10_SSCALED_PACK32", "A2R10G10B10_UINT_PACK32", "A2R10G10B10_UNORM_PACK32",
    "A2R10G10B10_USCALED_PACK32", "A8B8G8R8_SINT_PACK32", "A8B8G8R8_SNORM_PACK32",
    "A8B8G8R8_SRGB_PACK32", "A8B8G8R8_SSCALED_PACK32", "A8B8G8R8_UINT_PACK32",
    "A8B8G8R8_UNORM_PACK32", "A8B8G8R8_USCALED_PACK32", "B10G11R11_UFLOAT_PACK32",
    "B4G4R4A4_UNORM_PACK16", "B5G5R5A1_UNORM_PACK16", "B5G6R5_UNORM_PACK16", "B8G8R8A8_SINT",
    "B8G8R8A8_SNORM", "B8G8R8A8_SRGB", "B8G8R8A8_SSCALED", "B8G8R8A8_UINT", "B8G8R8A8_UNORM",
    "B8G8R8A8_USCALED", "B8G8R8_SINT", "B8G8R8_SNORM", "B8G8R8_SRGB", "B8G8R8_SSCALED",
    "B8G8R8_UINT", "B8G8R8_UNORM", "B8G8R8_USCALED", "D16_UNORM", "D16_UNORM_S8_UINT",
    "D24_UNORM_S8_UINT", "D32_SFLOAT", "D32_SFLOAT_S8_UINT", "R16G16B16A16_SFLOAT",
    "R16G16B16A16_SINT", "R16G16B16A16_SNORM", "R16G16B16A16_SSCALED", "R16G16B16A16_UINT",
    "R16G16B16A16_UNORM", "R16G16B16A16_USCALED", "R16G16B16_SFLOAT", "R16G16B16_SINT",
    "R16G16B16_SNORM", "R16G16B16_SSCALED", "R16G16B16_UINT", "R16G16B16_UNORM",
    "R16G16B16_USCALED", "R16G16_SFLOAT", "R16G16_SINT", "R16G16_SNORM", "R16G16_SSCALED",
    "R16G16_UINT", "R16G16_UNORM", "R16G16_USCALED", "R16_SFLOAT", "R16_SINT", "R16_SNORM",
    "R16_SSCALED", "R16_UINT", "R16_UNORM", "R16_USCALED", "R32G32B32A32_SFLOAT",
    "R32G32B32A32_SINT", "R32G32B32A32_UINT", "R32G32B32_SFLOAT", "R32G32B32_SINT",
    "R32G32B32_UINT", "R32G32_SFLOAT", "R32G32_SINT", "R32G32_UINT", "R32_SFLOAT", "R32_SINT",
    "R32_UINT", "R4G4B4A4_UNORM_PACK16", "R4G4_UNORM_PACK8", "R5G5B5A1_UNORM_PACK16",
    "R5G6B5_UNORM_PACK16", "R64G64B64A64_SFLOAT", "R64G64B64A64_SINT", "R64G64B64A64_UINT",
    "R64G64B64_SFLOAT", "R64G64B64_SINT", "R64G64B64_UINT", "R64G64_SFLOAT", "R64G64_SINT",
    "R64G64_UINT", "R64_SFLOAT", "R64_SINT", "R64_UINT", "R8G8B8A8_SINT", "R8G8B8A8_SNORM",
    "R8G8B8A8_SRGB", "R8G8B8A8_SSCALED", "R8G8B8A8_UINT", "R8G8B8A8_UNORM", "R8G8B8A8_USCALED",
    "R8G8B8_SINT", "R8G8B8_SNORM", "R8G8B8_SRGB", "R8G8B8_SSCALED", "R8G8B8_UINT", "R8G8B8_UNORM",
    "R8G8B8_USCALED", "R8G8_SINT", "R8G8_SNORM", "R8G8_SRGB", "R8G8_SSCALED", "R8G8_UINT",
    "R8G8_UNORM", "R8G8_USCALED", "R8_SINT", "R8_SNORM", "R8_SRGB", "R8_SSCALED", "R8_UINT",
    "R8_UNORM", "R8_USCALED", "S8_UINT", "X8_D24_UNORM_PACK32"]

/-- A named image format. -/
structure ImageFormat where
  name : String
  known : name ∈ imageFormatNames

namespace ImageFormat

@[ext]
theorem ext {left right : ImageFormat} (same : left.name = right.name) : left = right := by
  cases left; cases right; simp_all

instance : DecidableEq ImageFormat := fun left right =>
  if same : left.name = right.name then .isTrue (ext same)
  else .isFalse fun equal => same (congrArg name equal)

def ofName? (name : String) : Option ImageFormat :=
  if known : name ∈ imageFormatNames then some ⟨name, known⟩ else none

theorem ofName?_eq_some_iff {name : String} {format : ImageFormat} :
    ofName? name = some format ↔ format.name = name := by
  unfold ofName?
  split
  · rename_i known
    exact ⟨fun found => congrArg ImageFormat.name (Option.some.inj found).symm,
      fun same => congrArg some (ext same.symm)⟩
  · rename_i unknown
    exact ⟨fun found => (nomatch found), fun same => absurd (same ▸ format.known) unknown⟩

def hasStencil (format : ImageFormat) : Bool :=
  format.name ∈ ["D24_UNORM_S8_UINT", "D16_UNORM_S8_UINT", "D32_SFLOAT_S8_UINT", "S8_UINT"]

def hasDepth (format : ImageFormat) : Bool :=
  format.name ∈ ["D16_UNORM", "D16_UNORM_S8_UINT", "D24_UNORM_S8_UINT", "D32_SFLOAT",
    "D32_SFLOAT_S8_UINT", "X8_D24_UNORM_PACK32"]

end ImageFormat

end GpuScript
