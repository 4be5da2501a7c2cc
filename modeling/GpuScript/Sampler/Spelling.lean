import GpuScript.Label
import GpuScript.Sampler

namespace GpuScript

namespace Filter

def label : Filter → String
  | .nearest => "nearest"
  | .linear => "linear"

def all : List Filter :=
  [.nearest, .linear]

instance : Labelled Filter where
  all := all
  label := label
  complete := by intro value; cases value <;> decide
  distinct := by decide

end Filter

namespace AddressMode

def label : AddressMode → String
  | .repeated => "repeat"
  | .mirroredRepeat => "mirrored_repeat"
  | .clampToEdge => "clamp_to_edge"
  | .clampToBorder => "clamp_to_border"
  | .mirrorClampToEdge => "mirror_clamp_to_edge"

def all : List AddressMode :=
  [.repeated, .mirroredRepeat, .clampToEdge, .clampToBorder, .mirrorClampToEdge]

instance : Labelled AddressMode where
  all := all
  label := label
  complete := by intro value; cases value <;> decide
  distinct := by decide

end AddressMode

namespace BorderColor

def label : BorderColor → String
  | .floatTransparentBlack => "float_transparent_black"
  | .intTransparentBlack => "int_transparent_black"
  | .floatOpaqueBlack => "float_opaque_black"
  | .intOpaqueBlack => "int_opaque_black"
  | .floatOpaqueWhite => "float_opaque_white"
  | .intOpaqueWhite => "int_opaque_white"

def all : List BorderColor :=
  [.floatTransparentBlack, .intTransparentBlack, .floatOpaqueBlack, .intOpaqueBlack,
    .floatOpaqueWhite, .intOpaqueWhite]

instance : Labelled BorderColor where
  all := all
  label := label
  complete := by intro value; cases value <;> decide
  distinct := by decide

end BorderColor

def Filter.spellings : List (String × Filter) :=
  Filter.all.map fun value => (value.label, value)

def AddressMode.spellings : List (String × AddressMode) :=
  AddressMode.all.map fun value => (value.label, value)

def BorderColor.spellings : List (String × BorderColor) :=
  BorderColor.all.map fun value => (value.label, value)

end GpuScript
