import GpuScript.Label
import GpuScript.Raster.Basic

namespace GpuScript

namespace Topology

def label : Topology → String
  | .unknown => "unknown"
  | .pointList => "point_list"
  | .lineList => "line_list"
  | .lineStrip => "line_strip"
  | .triangleList => "triangle_list"
  | .triangleStrip => "triangle_strip"
  | .triangleFan => "triangle_fan"
  | .lineListWithAdjacency => "line_list_with_adjacency"
  | .lineStripWithAdjacency => "line_strip_with_adjacency"
  | .triangleListWithAdjacency => "triangle_list_with_adjacency"
  | .triangleStripWithAdjacency => "triangle_strip_with_adjacency"
  | .patchList => "patch_list"

def all : List Topology :=
  [.unknown, .pointList, .lineList, .lineStrip, .triangleList, .triangleStrip, .triangleFan,
    .lineListWithAdjacency, .lineStripWithAdjacency, .triangleListWithAdjacency,
    .triangleStripWithAdjacency, .patchList]

instance : Labelled Topology where
  all := all
  label := label
  complete := by intro value; cases value <;> decide
  distinct := by decide

end Topology

namespace PolygonMode

def label : PolygonMode → String
  | .fill => "fill"
  | .line => "line"
  | .point => "point"

def all : List PolygonMode :=
  [.fill, .line, .point]

instance : Labelled PolygonMode where
  all := all
  label := label
  complete := by intro value; cases value <;> decide
  distinct := by decide

end PolygonMode

namespace CullMode

def label : CullMode → String
  | .none => "none"
  | .front => "front"
  | .back => "back"
  | .frontAndBack => "front_and_back"

def all : List CullMode :=
  [.none, .front, .back, .frontAndBack]

instance : Labelled CullMode where
  all := all
  label := label
  complete := by intro value; cases value <;> decide
  distinct := by decide

end CullMode

namespace FrontFace

def label : FrontFace → String
  | .counterClockwise => "counter_clockwise"
  | .clockwise => "clockwise"

def all : List FrontFace :=
  [.counterClockwise, .clockwise]

instance : Labelled FrontFace where
  all := all
  label := label
  complete := by intro value; cases value <;> decide
  distinct := by decide

end FrontFace

namespace CompareOp

def label : CompareOp → String
  | .unknown => "unknown"
  | .never => "never"
  | .less => "less"
  | .equal => "equal"
  | .lessOrEqual => "less_or_equal"
  | .greater => "greater"
  | .notEqual => "not_equal"
  | .greaterOrEqual => "greater_or_equal"
  | .always => "always"

def all : List CompareOp :=
  [.unknown, .never, .less, .equal, .lessOrEqual, .greater, .notEqual, .greaterOrEqual, .always]

instance : Labelled CompareOp where
  all := all
  label := label
  complete := by intro value; cases value <;> decide
  distinct := by decide

end CompareOp

namespace StencilOp

def label : StencilOp → String
  | .unknown => "unknown"
  | .keep => "keep"
  | .zero => "zero"
  | .replace => "replace"
  | .incrementAndClamp => "increment_and_clamp"
  | .decrementAndClamp => "decrement_and_clamp"
  | .invert => "invert"
  | .incrementAndWrap => "increment_and_wrap"
  | .decrementAndWrap => "decrement_and_wrap"

def all : List StencilOp :=
  [.unknown, .keep, .zero, .replace, .incrementAndClamp, .decrementAndClamp, .invert,
    .incrementAndWrap, .decrementAndWrap]

instance : Labelled StencilOp where
  all := all
  label := label
  complete := by intro value; cases value <;> decide
  distinct := by decide

end StencilOp

namespace LogicOp

def label : LogicOp → String
  | .clear => "clear"
  | .and => "and"
  | .andReverse => "and_reverse"
  | .copy => "copy"
  | .andInverted => "and_inverted"
  | .noOp => "no_op"
  | .xor => "xor"
  | .or => "or"
  | .nor => "nor"
  | .equivalent => "equivalent"
  | .invert => "invert"
  | .orReverse => "or_reverse"
  | .copyInverted => "copy_inverted"
  | .orInverted => "or_inverted"
  | .nand => "nand"
  | .set => "set"

def all : List LogicOp :=
  [.clear, .and, .andReverse, .copy, .andInverted, .noOp, .xor, .or, .nor, .equivalent, .invert,
    .orReverse, .copyInverted, .orInverted, .nand, .set]

instance : Labelled LogicOp where
  all := all
  label := label
  complete := by intro value; cases value <;> decide
  distinct := by decide

end LogicOp

namespace BlendOp

def label : BlendOp → String
  | .unknown => "unknown"
  | .add => "add"
  | .subtract => "subtract"
  | .reverseSubtract => "reverse_subtract"
  | .min => "min"
  | .max => "max"
  | .zero => "zero"
  | .src => "src"
  | .dst => "dst"
  | .srcOver => "src_over"
  | .dstOver => "dst_over"
  | .srcIn => "src_in"
  | .dstIn => "dst_in"
  | .srcOut => "src_out"
  | .dstOut => "dst_out"
  | .srcAtop => "src_atop"
  | .dstAtop => "dst_atop"
  | .xor => "xor"
  | .multiply => "multiply"
  | .screen => "screen"
  | .overlay => "overlay"
  | .darken => "darken"
  | .lighten => "lighten"
  | .colorDodge => "color_dodge"
  | .colorBurn => "color_burn"
  | .hardLight => "hard_light"
  | .softLight => "soft_light"
  | .difference => "difference"
  | .exclusion => "exclusion"
  | .invert => "invert"
  | .invertRgb => "invert_rgb"
  | .linearDodge => "linear_dodge"
  | .linearBurn => "linear_burn"
  | .vividLight => "vivid_light"
  | .linearLight => "linear_light"
  | .pinLight => "pin_light"
  | .hardMix => "hard_mix"
  | .hslHue => "hsl_hue"
  | .hslSaturation => "hsl_saturation"
  | .hslColor => "hsl_color"
  | .hslLuminosity => "hsl_luminosity"
  | .plus => "plus"
  | .plusClamped => "plus_clamped"
  | .plusClampedAlpha => "plus_clamped_alpha"
  | .plusDarker => "plus_darker"
  | .minus => "minus"
  | .minusClamped => "minus_clamped"
  | .contrast => "contrast"
  | .invertOvg => "invert_ovg"
  | .red => "red"
  | .green => "green"
  | .blue => "blue"

def all : List BlendOp :=
  [.unknown, .add, .subtract, .reverseSubtract, .min, .max, .zero, .src, .dst, .srcOver, .dstOver,
    .srcIn, .dstIn, .srcOut, .dstOut, .srcAtop, .dstAtop, .xor, .multiply, .screen, .overlay,
    .darken, .lighten, .colorDodge, .colorBurn, .hardLight, .softLight, .difference, .exclusion,
    .invert, .invertRgb, .linearDodge, .linearBurn, .vividLight, .linearLight, .pinLight, .hardMix,
    .hslHue, .hslSaturation, .hslColor, .hslLuminosity, .plus, .plusClamped, .plusClampedAlpha,
    .plusDarker, .minus, .minusClamped, .contrast, .invertOvg, .red, .green, .blue]

instance : Labelled BlendOp where
  all := all
  label := label
  complete := by intro value; cases value <;> decide
  distinct := by decide

end BlendOp

namespace BlendFactor

def label : BlendFactor → String
  | .unknown => "unknown"
  | .zero => "zero"
  | .one => "one"
  | .srcColor => "src_color"
  | .oneMinusSrcColor => "one_minus_src_color"
  | .dstColor => "dst_color"
  | .oneMinusDstColor => "one_minus_dst_color"
  | .srcAlpha => "src_alpha"
  | .oneMinusSrcAlpha => "one_minus_src_alpha"
  | .dstAlpha => "dst_alpha"
  | .oneMinusDstAlpha => "one_minus_dst_alpha"
  | .constantColor => "constant_color"
  | .oneMinusConstantColor => "one_minus_constant_color"
  | .constantAlpha => "constant_alpha"
  | .oneMinusConstantAlpha => "one_minus_constant_alpha"
  | .srcAlphaSaturate => "src_alpha_saturate"
  | .src1Color => "src1_color"
  | .oneMinusSrc1Color => "one_minus_src1_color"
  | .src1Alpha => "src1_alpha"
  | .oneMinusSrc1Alpha => "one_minus_src1_alpha"

def all : List BlendFactor :=
  [.unknown, .zero, .one, .srcColor, .oneMinusSrcColor, .dstColor, .oneMinusDstColor, .srcAlpha,
    .oneMinusSrcAlpha, .dstAlpha, .oneMinusDstAlpha, .constantColor, .oneMinusConstantColor,
    .constantAlpha, .oneMinusConstantAlpha, .srcAlphaSaturate, .src1Color, .oneMinusSrc1Color,
    .src1Alpha, .oneMinusSrc1Alpha]

instance : Labelled BlendFactor where
  all := all
  label := label
  complete := by intro value; cases value <;> decide
  distinct := by decide

end BlendFactor

end GpuScript
