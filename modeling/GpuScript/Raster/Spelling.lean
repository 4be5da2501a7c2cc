import GpuScript.Raster.Basic

/-! How scripts spell the enumerations of rasterization. A spelling is matched exactly; only truth
values fold the case of their letters. -/
namespace GpuScript

/-- Topologies in draw commands, by OpenGL or by short name. -/
def Topology.drawSpellings : List (String × Topology) :=
  [("PATCH_LIST", .patchList),
    ("POINT_LIST", .pointList),
    ("GL_LINE_STRIP_ADJACENCY", .lineStripWithAdjacency),
    ("GL_LINE_STRIP", .lineStrip),
    ("GL_LINES", .lineList),
    ("GL_LINES_ADJACENCY", .lineListWithAdjacency),
    ("GL_PATCHES", .patchList),
    ("GL_POINTS", .pointList),
    ("GL_TRIANGLE_STRIP", .triangleStrip),
    ("GL_TRIANGLE_FAN", .triangleFan),
    ("GL_TRIANGLES", .triangleList),
    ("GL_TRIANGLES_ADJACENCY", .triangleListWithAdjacency),
    ("GL_TRIANGLE_STRIP_ADJACENCY", .triangleStripWithAdjacency),
    ("LINE_LIST", .lineList),
    ("LINE_LIST_WITH_ADJACENCY", .lineListWithAdjacency),
    ("LINE_STRIP", .lineStrip),
    ("LINE_STRIP_WITH_ADJACENCY", .lineStripWithAdjacency),
    ("TRIANGLE_FAN", .triangleFan),
    ("TRIANGLE_LIST", .triangleList),
    ("TRIANGLE_LIST_WITH_ADJACENCY", .triangleListWithAdjacency),
    ("TRIANGLE_STRIP", .triangleStrip),
    ("TRIANGLE_STRIP_WITH_ADJACENCY", .triangleStripWithAdjacency)]

/-- Topologies in state commands. -/
def Topology.stateSpellings : List (String × Topology) :=
  [("VK_PRIMITIVE_TOPOLOGY_PATCH_LIST", .patchList),
    ("VK_PRIMITIVE_TOPOLOGY_POINT_LIST", .pointList),
    ("VK_PRIMITIVE_TOPOLOGY_LINE_LIST", .lineList),
    ("VK_PRIMITIVE_TOPOLOGY_LINE_LIST_WITH_ADJACENCY", .lineListWithAdjacency),
    ("VK_PRIMITIVE_TOPOLOGY_LINE_STRIP", .lineStrip),
    ("VK_PRIMITIVE_TOPOLOGY_LINE_STRIP_WITH_ADJACENCY", .lineStripWithAdjacency),
    ("VK_PRIMITIVE_TOPOLOGY_TRIANGLE_FAN", .triangleFan),
    ("VK_PRIMITIVE_TOPOLOGY_TRIANGLE_LIST", .triangleList),
    ("VK_PRIMITIVE_TOPOLOGY_TRIANGLE_LIST_WITH_ADJACENCY", .triangleListWithAdjacency),
    ("VK_PRIMITIVE_TOPOLOGY_TRIANGLE_STRIP", .triangleStrip),
    ("VK_PRIMITIVE_TOPOLOGY_TRIANGLE_STRIP_WITH_ADJACENCY", .triangleStripWithAdjacency)]

def PolygonMode.stateSpellings : List (String × PolygonMode) :=
  [("VK_POLYGON_MODE_FILL", .fill),
    ("VK_POLYGON_MODE_LINE", .line),
    ("VK_POLYGON_MODE_POINT", .point)]

/-- The terms of a cull mode. -/
def CullMode.stateSpellings : List (String × CullMode) :=
  [("VK_CULL_MODE_NONE", .none),
    ("VK_CULL_MODE_FRONT_BIT", .front),
    ("VK_CULL_MODE_BACK_BIT", .back),
    ("VK_CULL_MODE_FRONT_AND_BACK", .frontAndBack)]

def FrontFace.stateSpellings : List (String × FrontFace) :=
  [("VK_FRONT_FACE_COUNTER_CLOCKWISE", .counterClockwise),
    ("VK_FRONT_FACE_CLOCKWISE", .clockwise)]

def LogicOp.stateSpellings : List (String × LogicOp) :=
  [("VK_LOGIC_OP_CLEAR", .clear),
    ("VK_LOGIC_OP_AND", .and),
    ("VK_LOGIC_OP_AND_REVERSE", .andReverse),
    ("VK_LOGIC_OP_COPY", .copy),
    ("VK_LOGIC_OP_AND_INVERTED", .andInverted),
    ("VK_LOGIC_OP_NO_OP", .noOp),
    ("VK_LOGIC_OP_XOR", .xor),
    ("VK_LOGIC_OP_OR", .or),
    ("VK_LOGIC_OP_NOR", .nor),
    ("VK_LOGIC_OP_EQUIVALENT", .equivalent),
    ("VK_LOGIC_OP_INVERT", .invert),
    ("VK_LOGIC_OP_OR_REVERSE", .orReverse),
    ("VK_LOGIC_OP_COPY_INVERTED", .copyInverted),
    ("VK_LOGIC_OP_OR_INVERTED", .orInverted),
    ("VK_LOGIC_OP_NAND", .nand),
    ("VK_LOGIC_OP_SET", .set)]

def BlendFactor.stateSpellings : List (String × BlendFactor) :=
  [("VK_BLEND_FACTOR_ZERO", .zero),
    ("VK_BLEND_FACTOR_ONE", .one),
    ("VK_BLEND_FACTOR_SRC_COLOR", .srcColor),
    ("VK_BLEND_FACTOR_ONE_MINUS_SRC_COLOR", .oneMinusSrcColor),
    ("VK_BLEND_FACTOR_DST_COLOR", .dstColor),
    ("VK_BLEND_FACTOR_ONE_MINUS_DST_COLOR", .oneMinusDstColor),
    ("VK_BLEND_FACTOR_SRC_ALPHA", .srcAlpha),
    ("VK_BLEND_FACTOR_ONE_MINUS_SRC_ALPHA", .oneMinusSrcAlpha),
    ("VK_BLEND_FACTOR_DST_ALPHA", .dstAlpha),
    ("VK_BLEND_FACTOR_ONE_MINUS_DST_ALPHA", .oneMinusDstAlpha),
    ("VK_BLEND_FACTOR_CONSTANT_COLOR", .constantColor),
    ("VK_BLEND_FACTOR_ONE_MINUS_CONSTANT_COLOR", .oneMinusConstantColor),
    ("VK_BLEND_FACTOR_CONSTANT_ALPHA", .constantAlpha),
    ("VK_BLEND_FACTOR_ONE_MINUS_CONSTANT_ALPHA", .oneMinusConstantAlpha),
    ("VK_BLEND_FACTOR_SRC_ALPHA_SATURATE", .srcAlphaSaturate),
    ("VK_BLEND_FACTOR_SRC1_COLOR", .src1Color),
    ("VK_BLEND_FACTOR_ONE_MINUS_SRC1_COLOR", .oneMinusSrc1Color),
    ("VK_BLEND_FACTOR_SRC1_ALPHA", .src1Alpha),
    ("VK_BLEND_FACTOR_ONE_MINUS_SRC1_ALPHA", .oneMinusSrc1Alpha)]

def BlendFactor.shortSpellings : List (String × BlendFactor) :=
  [("zero", .zero),
    ("one", .one),
    ("src_color", .srcColor),
    ("one_minus_src_color", .oneMinusSrcColor),
    ("dst_color", .dstColor),
    ("one_minus_dst_color", .oneMinusDstColor),
    ("src_alpha", .srcAlpha),
    ("one_minus_src_alpha", .oneMinusSrcAlpha),
    ("dst_alpha", .dstAlpha),
    ("one_minus_dst_alpha", .oneMinusDstAlpha),
    ("constant_color", .constantColor),
    ("one_minus_constant_color", .oneMinusConstantColor),
    ("constant_alpha", .constantAlpha),
    ("one_minus_constant_alpha", .oneMinusConstantAlpha),
    ("src_alpha_saturate", .srcAlphaSaturate),
    ("src1_color", .src1Color),
    ("one_minus_src1_color", .oneMinusSrc1Color),
    ("src1_alpha", .src1Alpha),
    ("one_minus_src1_alpha", .oneMinusSrc1Alpha)]

def BlendOp.stateSpellings : List (String × BlendOp) :=
  [("VK_BLEND_OP_ADD", .add),
    ("VK_BLEND_OP_SUBTRACT", .subtract),
    ("VK_BLEND_OP_REVERSE_SUBTRACT", .reverseSubtract),
    ("VK_BLEND_OP_MIN", .min),
    ("VK_BLEND_OP_MAX", .max),
    ("VK_BLEND_OP_ZERO_EXT", .zero),
    ("VK_BLEND_OP_SRC_EXT", .src),
    ("VK_BLEND_OP_DST_EXT", .dst),
    ("VK_BLEND_OP_SRC_OVER_EXT", .srcOver),
    ("VK_BLEND_OP_DST_OVER_EXT", .dstOver),
    ("VK_BLEND_OP_SRC_IN_EXT", .srcIn),
    ("VK_BLEND_OP_DST_IN_EXT", .dstIn),
    ("VK_BLEND_OP_SRC_OUT_EXT", .srcOut),
    ("VK_BLEND_OP_DST_OUT_EXT", .dstOut),
    ("VK_BLEND_OP_SRC_ATOP_EXT", .srcAtop),
    ("VK_BLEND_OP_DST_ATOP_EXT", .dstAtop),
    ("VK_BLEND_OP_XOR_EXT", .xor),
    ("VK_BLEND_OP_MULTIPLY_EXT", .multiply),
    ("VK_BLEND_OP_SCREEN_EXT", .screen),
    ("VK_BLEND_OP_OVERLAY_EXT", .overlay),
    ("VK_BLEND_OP_DARKEN_EXT", .darken),
    ("VK_BLEND_OP_LIGHTEN_EXT", .lighten),
    ("VK_BLEND_OP_COLORDODGE_EXT", .colorDodge),
    ("VK_BLEND_OP_COLORBURN_EXT", .colorBurn),
    ("VK_BLEND_OP_HARDLIGHT_EXT", .hardLight),
    ("VK_BLEND_OP_SOFTLIGHT_EXT", .softLight),
    ("VK_BLEND_OP_DIFFERENCE_EXT", .difference),
    ("VK_BLEND_OP_EXCLUSION_EXT", .exclusion),
    ("VK_BLEND_OP_INVERT_EXT", .invert),
    ("VK_BLEND_OP_INVERT_RGB_EXT", .invertRgb),
    ("VK_BLEND_OP_LINEARDODGE_EXT", .linearDodge),
    ("VK_BLEND_OP_LINEARBURN_EXT", .linearBurn),
    ("VK_BLEND_OP_VIVIDLIGHT_EXT", .vividLight),
    ("VK_BLEND_OP_LINEARLIGHT_EXT", .linearLight),
    ("VK_BLEND_OP_PINLIGHT_EXT", .pinLight),
    ("VK_BLEND_OP_HARDMIX_EXT", .hardMix),
    ("VK_BLEND_OP_HSL_HUE_EXT", .hslHue),
    ("VK_BLEND_OP_HSL_SATURATION_EXT", .hslSaturation),
    ("VK_BLEND_OP_HSL_COLOR_EXT", .hslColor),
    ("VK_BLEND_OP_HSL_LUMINOSITY_EXT", .hslLuminosity),
    ("VK_BLEND_OP_PLUS_EXT", .plus),
    ("VK_BLEND_OP_PLUS_CLAMPED_EXT", .plusClamped),
    ("VK_BLEND_OP_PLUS_CLAMPED_ALPHA_EXT", .plusClampedAlpha),
    ("VK_BLEND_OP_PLUS_DARKER_EXT", .plusDarker),
    ("VK_BLEND_OP_MINUS_EXT", .minus),
    ("VK_BLEND_OP_MINUS_CLAMPED_EXT", .minusClamped),
    ("VK_BLEND_OP_CONTRAST_EXT", .contrast),
    ("VK_BLEND_OP_INVERT_OVG_EXT", .invertOvg),
    ("VK_BLEND_OP_RED_EXT", .red),
    ("VK_BLEND_OP_GREEN_EXT", .green),
    ("VK_BLEND_OP_BLUE_EXT", .blue)]

def BlendOp.shortSpellings : List (String × BlendOp) :=
  [("add", .add),
    ("subtract", .subtract),
    ("reverse_subtract", .reverseSubtract),
    ("min", .min),
    ("max", .max),
    ("zero", .zero),
    ("src", .src),
    ("dst", .dst),
    ("src_over", .srcOver),
    ("dst_over", .dstOver),
    ("src_in", .srcIn),
    ("dst_in", .dstIn),
    ("src_out", .srcOut),
    ("dst_out", .dstOut),
    ("src_atop", .srcAtop),
    ("dst_atop", .dstAtop),
    ("xor", .xor),
    ("multiply", .multiply),
    ("screen", .screen),
    ("overlay", .overlay),
    ("darken", .darken),
    ("lighten", .lighten),
    ("color_dodge", .colorDodge),
    ("color_burn", .colorBurn),
    ("hard_light", .hardLight),
    ("soft_light", .softLight),
    ("difference", .difference),
    ("exclusion", .exclusion),
    ("invert", .invert),
    ("invert_rgb", .invertRgb),
    ("linear_dodge", .linearDodge),
    ("linear_burn", .linearBurn),
    ("vivid_light", .vividLight),
    ("linear_light", .linearLight),
    ("pin_light", .pinLight),
    ("hard_mix", .hardMix),
    ("hsl_hue", .hslHue),
    ("hsl_saturation", .hslSaturation),
    ("hsl_color", .hslColor),
    ("hsl_luminosity", .hslLuminosity),
    ("plus", .plus),
    ("plus_clamped", .plusClamped),
    ("plus_clamped_alpha", .plusClampedAlpha),
    ("plus_darker", .plusDarker),
    ("minus", .minus),
    ("minus_clamped", .minusClamped),
    ("contrast", .contrast),
    ("invert_ovg", .invertOvg),
    ("red", .red),
    ("green", .green),
    ("blue", .blue)]

def CompareOp.stateSpellings : List (String × CompareOp) :=
  [("VK_COMPARE_OP_NEVER", .never),
    ("VK_COMPARE_OP_LESS", .less),
    ("VK_COMPARE_OP_EQUAL", .equal),
    ("VK_COMPARE_OP_LESS_OR_EQUAL", .lessOrEqual),
    ("VK_COMPARE_OP_GREATER", .greater),
    ("VK_COMPARE_OP_NOT_EQUAL", .notEqual),
    ("VK_COMPARE_OP_GREATER_OR_EQUAL", .greaterOrEqual),
    ("VK_COMPARE_OP_ALWAYS", .always)]

def CompareOp.shortSpellings : List (String × CompareOp) :=
  [("never", .never),
    ("less", .less),
    ("equal", .equal),
    ("less_or_equal", .lessOrEqual),
    ("greater", .greater),
    ("not_equal", .notEqual),
    ("greater_or_equal", .greaterOrEqual),
    ("always", .always)]

def StencilOp.stateSpellings : List (String × StencilOp) :=
  [("VK_STENCIL_OP_KEEP", .keep),
    ("VK_STENCIL_OP_ZERO", .zero),
    ("VK_STENCIL_OP_REPLACE", .replace),
    ("VK_STENCIL_OP_INCREMENT_AND_CLAMP", .incrementAndClamp),
    ("VK_STENCIL_OP_DECREMENT_AND_CLAMP", .decrementAndClamp),
    ("VK_STENCIL_OP_INVERT", .invert),
    ("VK_STENCIL_OP_INCREMENT_AND_WRAP", .incrementAndWrap),
    ("VK_STENCIL_OP_DECREMENT_AND_WRAP", .decrementAndWrap)]

/-- The bit of a colour channel in a write mask. -/
def colorComponentBits : List (String × Nat) :=
  [("VK_COLOR_COMPONENT_R_BIT", 1),
    ("VK_COLOR_COMPONENT_G_BIT", 2),
    ("VK_COLOR_COMPONENT_B_BIT", 4),
    ("VK_COLOR_COMPONENT_A_BIT", 8)]

/-- The truth value that a word spells in any case of its letters. -/
def truthOfWord? (word : String) : Option Bool :=
  match String.ofList (word.toList.map Char.toLower) with
  | "true" => some true
  | "false" => some false
  | _ => none

end GpuScript
