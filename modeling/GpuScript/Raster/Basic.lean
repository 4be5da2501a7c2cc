namespace GpuScript

inductive Topology where
  | unknown
  | pointList
  | lineList
  | lineStrip
  | triangleList
  | triangleStrip
  | triangleFan
  | lineListWithAdjacency
  | lineStripWithAdjacency
  | triangleListWithAdjacency
  | triangleStripWithAdjacency
  | patchList
  deriving DecidableEq

instance : Inhabited Topology := ⟨.triangleStrip⟩

/-- How the inside of a polygon is drawn. -/
inductive PolygonMode where
  | fill
  | line
  | point
  deriving DecidableEq

instance : Inhabited PolygonMode := ⟨.fill⟩

/-- The faces that are dropped before rasterization. -/
inductive CullMode where
  | none
  | front
  | back
  | frontAndBack
  deriving DecidableEq

instance : Inhabited CullMode := ⟨.none⟩

/-- The winding that counts as the front. -/
inductive FrontFace where
  | counterClockwise
  | clockwise
  deriving DecidableEq

instance : Inhabited FrontFace := ⟨.counterClockwise⟩

/-- A comparison of depth or stencil values. -/
inductive CompareOp where
  | unknown
  | never
  | less
  | equal
  | lessOrEqual
  | greater
  | notEqual
  | greaterOrEqual
  | always
  deriving DecidableEq

instance : Inhabited CompareOp := ⟨.always⟩

/-- An update of a stencil value. -/
inductive StencilOp where
  | unknown
  | keep
  | zero
  | replace
  | incrementAndClamp
  | decrementAndClamp
  | invert
  | incrementAndWrap
  | decrementAndWrap
  deriving DecidableEq

instance : Inhabited StencilOp := ⟨.keep⟩

/-- A logic operation on framebuffer bits. -/
inductive LogicOp where
  | clear
  | and
  | andReverse
  | copy
  | andInverted
  | noOp
  | xor
  | or
  | nor
  | equivalent
  | invert
  | orReverse
  | copyInverted
  | orInverted
  | nand
  | set
  deriving DecidableEq

instance : Inhabited LogicOp := ⟨.clear⟩

/-- A blend equation, the advanced ones included. -/
inductive BlendOp where
  | unknown
  | add
  | subtract
  | reverseSubtract
  | min
  | max
  | zero
  | src
  | dst
  | srcOver
  | dstOver
  | srcIn
  | dstIn
  | srcOut
  | dstOut
  | srcAtop
  | dstAtop
  | xor
  | multiply
  | screen
  | overlay
  | darken
  | lighten
  | colorDodge
  | colorBurn
  | hardLight
  | softLight
  | difference
  | exclusion
  | invert
  | invertRgb
  | linearDodge
  | linearBurn
  | vividLight
  | linearLight
  | pinLight
  | hardMix
  | hslHue
  | hslSaturation
  | hslColor
  | hslLuminosity
  | plus
  | plusClamped
  | plusClampedAlpha
  | plusDarker
  | minus
  | minusClamped
  | contrast
  | invertOvg
  | red
  | green
  | blue
  deriving DecidableEq

instance : Inhabited BlendOp := ⟨.add⟩

/-- The weight of a source or destination in a blend. -/
inductive BlendFactor where
  | unknown
  | zero
  | one
  | srcColor
  | oneMinusSrcColor
  | dstColor
  | oneMinusDstColor
  | srcAlpha
  | oneMinusSrcAlpha
  | dstAlpha
  | oneMinusDstAlpha
  | constantColor
  | oneMinusConstantColor
  | constantAlpha
  | oneMinusConstantAlpha
  | srcAlphaSaturate
  | src1Color
  | oneMinusSrc1Color
  | src1Alpha
  | oneMinusSrc1Alpha
  deriving DecidableEq

instance : Inhabited BlendFactor := ⟨.one⟩

/-- The union of two sets of faces. -/
def CullMode.combine : CullMode → CullMode → CullMode
  | mode, .none => mode
  | .none, mode => mode
  | .front, .front => .front
  | .back, .back => .back
  | _, _ => .frontAndBack

end GpuScript
