import Mathlib.Logic.Function.Basic
import GpuScript.Raster.Spelling
import GpuScript.Raster.State
import GpuScript.Section.Token

namespace GpuScript

inductive RasterField where
  | frontFailOp
  | frontPassOp
  | frontDepthFailOp
  | frontCompareOp
  | backFailOp
  | backPassOp
  | backDepthFailOp
  | backCompareOp
  | topology
  | polygonMode
  | cullMode
  | frontFace
  | depthCompareOp
  | logicOp
  | srcColorBlendFactor
  | dstColorBlendFactor
  | srcAlphaBlendFactor
  | dstAlphaBlendFactor
  | colorBlendOp
  | alphaBlendOp
  | frontCompareMask
  | frontWriteMask
  | frontReference
  | backCompareMask
  | backWriteMask
  | backReference
  | colorWriteMask
  | enableBlend
  | enableDepthTest
  | enableDepthWrite
  | enableDepthClamp
  | enableDepthBias
  | enableDepthBoundsTest
  | enableStencilTest
  | enablePrimitiveRestart
  | enableRasterizerDiscard
  | enableLogicOp
  | lineWidth
  | depthBiasConstantFactor
  | depthBiasClamp
  | depthBiasSlopeFactor
  | minDepthBounds
  | maxDepthBounds
  | viewport
  | patchControlPoints
  deriving DecidableEq

/-- What the values of a field are. Whole numbers are told apart by the way they are written. -/
inductive FieldKind where
  | flag
  | number
  | reference
  | topology
  | polygonMode
  | logicOp
  | frontFace
  | blendFactor
  | blendOp
  | compareOp
  | stencilOp
  | cullMode
  | channelMask
  | patchSize
  | stencilMask
  | viewport
  deriving DecidableEq

namespace FieldKind

def Value : FieldKind → Type
  | flag => Bool
  | number => Single
  | reference | channelMask | patchSize | stencilMask => Nat
  | topology => Topology
  | polygonMode => PolygonMode
  | logicOp => LogicOp
  | frontFace => FrontFace
  | blendFactor => BlendFactor
  | blendOp => BlendOp
  | compareOp => CompareOp
  | stencilOp => StencilOp
  | cullMode => CullMode
  | viewport => Option Viewport

/-- The item that a word spells. -/
def spelled? {Item : Type} (spellings : List (String × Item)) : List Token → Option Item
  | [token] => if token.isWord then spellings.lookup token.text else none
  | _ => none

/-- The items that words between bars spell, joined. -/
def joined? {Item : Type} (spellings : List (String × Item)) (join : Item → Item → Item)
    (empty : Item) (tokens : List Token) : Option Item :=
  ((tokens.filter (·.text != "|")).mapM fun token => spellings.lookup token.text).map
    (·.foldl join empty)

theorem joined?_bar {Item : Type} (spellings : List (String × Item)) (join : Item → Item → Item)
    (joined : Item) {token : Token} (bar : token.text = "|") (tokens : List Token) :
    joined? spellings join joined (token :: tokens) = joined? spellings join joined tokens := by
  simp only [joined?, List.filter_cons, bar, bne_self_eq_false, Bool.false_eq_true, if_false]

theorem joined?_term {Item : Type} {spellings : List (String × Item)} (join : Item → Item → Item)
    (joined : Item) {token : Token} {item : Item} (solid : token.text ≠ "|")
    (found : spellings.lookup token.text = some item) (tokens : List Token) :
    joined? spellings join joined (token :: tokens) =
      joined? spellings join (join joined item) tokens := by
  simp only [joined?, List.filter_cons, bne_iff_ne.mpr solid, if_true, List.mapM_cons, found,
    Option.bind_eq_bind, Option.bind_some]
  cases (tokens.filter (·.text != "|")).mapM fun token => spellings.lookup token.text <;> rfl

/-- The value that a row of tokens spells. -/
def valueOf? : (kind : FieldKind) → List Token → Option kind.Value
  | flag, [token] => truthOfWord? token.text
  | number, [token] => token.asDouble.toOption.map Token.toSingle
  | reference, [token] => if token.isInteger then some token.low else none
  | topology, tokens => spelled? Topology.stateSpellings tokens
  | polygonMode, tokens => spelled? PolygonMode.stateSpellings tokens
  | logicOp, tokens => spelled? LogicOp.stateSpellings tokens
  | frontFace, tokens => spelled? FrontFace.stateSpellings tokens
  | blendFactor, tokens => spelled? BlendFactor.stateSpellings tokens
  | blendOp, tokens => spelled? BlendOp.stateSpellings tokens
  | compareOp, tokens => spelled? CompareOp.stateSpellings tokens
  | stencilOp, tokens => spelled? StencilOp.stateSpellings tokens
  | cullMode, tokens => joined? CullMode.stateSpellings CullMode.combine .none tokens
  | channelMask, tokens => (joined? colorComponentBits (· ||| ·) 0 tokens : Option Nat)
  | patchSize, [parameter, vertices, count] =>
    if parameter.text = "parameter" ∧ vertices.text = "vertices" ∧ count.isInteger then
      some count.low
    else none
  | _, _ => none

end FieldKind

namespace RasterField

def kind : RasterField → FieldKind
  | frontFailOp | frontPassOp | frontDepthFailOp | backFailOp | backPassOp | backDepthFailOp =>
    .stencilOp
  | frontCompareOp | backCompareOp | depthCompareOp => .compareOp
  | topology => .topology
  | polygonMode => .polygonMode
  | cullMode => .cullMode
  | frontFace => .frontFace
  | logicOp => .logicOp
  | srcColorBlendFactor | dstColorBlendFactor | srcAlphaBlendFactor | dstAlphaBlendFactor =>
    .blendFactor
  | colorBlendOp | alphaBlendOp => .blendOp
  | frontCompareMask | frontWriteMask | backCompareMask | backWriteMask => .stencilMask
  | frontReference | backReference => .reference
  | colorWriteMask => .channelMask
  | enableBlend | enableDepthTest | enableDepthWrite | enableDepthClamp | enableDepthBias
  | enableDepthBoundsTest | enableStencilTest | enablePrimitiveRestart | enableRasterizerDiscard
  | enableLogicOp => .flag
  | lineWidth | depthBiasConstantFactor | depthBiasClamp | depthBiasSlopeFactor | minDepthBounds
  | maxDepthBounds => .number
  | viewport => .viewport
  | patchControlPoints => .patchSize

abbrev Value (field : RasterField) : Type := field.kind.Value

/-- The keywords of state commands, each with the field it names. -/
def keywords : List (String × RasterField) :=
  [("primitiveRestartEnable", enablePrimitiveRestart),
    ("depthClampEnable", enableDepthClamp),
    ("rasterizerDiscardEnable", enableRasterizerDiscard),
    ("depthBiasEnable", enableDepthBias),
    ("logicOpEnable", enableLogicOp),
    ("blendEnable", enableBlend),
    ("depthTestEnable", enableDepthTest),
    ("depthWriteEnable", enableDepthWrite),
    ("depthBoundsTestEnable", enableDepthBoundsTest),
    ("stencilTestEnable", enableStencilTest),
    ("topology", topology),
    ("polygonMode", polygonMode),
    ("logicOp", logicOp),
    ("frontFace", frontFace),
    ("cullMode", cullMode),
    ("depthBiasConstantFactor", depthBiasConstantFactor),
    ("depthBiasClamp", depthBiasClamp),
    ("depthBiasSlopeFactor", depthBiasSlopeFactor),
    ("lineWidth", lineWidth),
    ("minDepthBounds", minDepthBounds),
    ("maxDepthBounds", maxDepthBounds),
    ("srcColorBlendFactor", srcColorBlendFactor),
    ("dstColorBlendFactor", dstColorBlendFactor),
    ("srcAlphaBlendFactor", srcAlphaBlendFactor),
    ("dstAlphaBlendFactor", dstAlphaBlendFactor),
    ("colorBlendOp", colorBlendOp),
    ("alphaBlendOp", alphaBlendOp),
    ("depthCompareOp", depthCompareOp),
    ("front.compareOp", frontCompareOp),
    ("back.compareOp", backCompareOp),
    ("front.failOp", frontFailOp),
    ("front.passOp", frontPassOp),
    ("front.depthFailOp", frontDepthFailOp),
    ("back.failOp", backFailOp),
    ("back.passOp", backPassOp),
    ("back.depthFailOp", backDepthFailOp),
    ("front.reference", frontReference),
    ("back.reference", backReference),
    ("colorWriteMask", colorWriteMask),
    ("patch", patchControlPoints)]

def ofKeyword? (keyword : String) : Option RasterField := keywords.lookup keyword

end RasterField

/-- A field with a value for it. -/
abbrev FieldChange : Type := (field : RasterField) × field.Value

/-- The field that a keyword names, with the value that the tokens behind it spell. -/
def FieldChange.of? (keyword : String) (tokens : List Token) : Option FieldChange :=
  (RasterField.ofKeyword? keyword).bind fun field =>
    (field.kind.valueOf? tokens).map (Sigma.mk field)

namespace RasterState

def values (state : RasterState) : (field : RasterField) → field.Value
  | .frontFailOp => state.frontFailOp
  | .frontPassOp => state.frontPassOp
  | .frontDepthFailOp => state.frontDepthFailOp
  | .frontCompareOp => state.frontCompareOp
  | .backFailOp => state.backFailOp
  | .backPassOp => state.backPassOp
  | .backDepthFailOp => state.backDepthFailOp
  | .backCompareOp => state.backCompareOp
  | .topology => state.topology
  | .polygonMode => state.polygonMode
  | .cullMode => state.cullMode
  | .frontFace => state.frontFace
  | .depthCompareOp => state.depthCompareOp
  | .logicOp => state.logicOp
  | .srcColorBlendFactor => state.srcColorBlendFactor
  | .dstColorBlendFactor => state.dstColorBlendFactor
  | .srcAlphaBlendFactor => state.srcAlphaBlendFactor
  | .dstAlphaBlendFactor => state.dstAlphaBlendFactor
  | .colorBlendOp => state.colorBlendOp
  | .alphaBlendOp => state.alphaBlendOp
  | .frontCompareMask => state.frontCompareMask
  | .frontWriteMask => state.frontWriteMask
  | .frontReference => state.frontReference
  | .backCompareMask => state.backCompareMask
  | .backWriteMask => state.backWriteMask
  | .backReference => state.backReference
  | .colorWriteMask => state.colorWriteMask
  | .enableBlend => state.enableBlend
  | .enableDepthTest => state.enableDepthTest
  | .enableDepthWrite => state.enableDepthWrite
  | .enableDepthClamp => state.enableDepthClamp
  | .enableDepthBias => state.enableDepthBias
  | .enableDepthBoundsTest => state.enableDepthBoundsTest
  | .enableStencilTest => state.enableStencilTest
  | .enablePrimitiveRestart => state.enablePrimitiveRestart
  | .enableRasterizerDiscard => state.enableRasterizerDiscard
  | .enableLogicOp => state.enableLogicOp
  | .lineWidth => state.lineWidth
  | .depthBiasConstantFactor => state.depthBiasConstantFactor
  | .depthBiasClamp => state.depthBiasClamp
  | .depthBiasSlopeFactor => state.depthBiasSlopeFactor
  | .minDepthBounds => state.minDepthBounds
  | .maxDepthBounds => state.maxDepthBounds
  | .viewport => state.viewport
  | .patchControlPoints => state.patchControlPoints

def ofValues (values : (field : RasterField) → field.Value) : RasterState where
  frontFailOp := values .frontFailOp
  frontPassOp := values .frontPassOp
  frontDepthFailOp := values .frontDepthFailOp
  frontCompareOp := values .frontCompareOp
  backFailOp := values .backFailOp
  backPassOp := values .backPassOp
  backDepthFailOp := values .backDepthFailOp
  backCompareOp := values .backCompareOp
  topology := values .topology
  polygonMode := values .polygonMode
  cullMode := values .cullMode
  frontFace := values .frontFace
  depthCompareOp := values .depthCompareOp
  logicOp := values .logicOp
  srcColorBlendFactor := values .srcColorBlendFactor
  dstColorBlendFactor := values .dstColorBlendFactor
  srcAlphaBlendFactor := values .srcAlphaBlendFactor
  dstAlphaBlendFactor := values .dstAlphaBlendFactor
  colorBlendOp := values .colorBlendOp
  alphaBlendOp := values .alphaBlendOp
  frontCompareMask := values .frontCompareMask
  frontWriteMask := values .frontWriteMask
  frontReference := values .frontReference
  backCompareMask := values .backCompareMask
  backWriteMask := values .backWriteMask
  backReference := values .backReference
  colorWriteMask := values .colorWriteMask
  enableBlend := values .enableBlend
  enableDepthTest := values .enableDepthTest
  enableDepthWrite := values .enableDepthWrite
  enableDepthClamp := values .enableDepthClamp
  enableDepthBias := values .enableDepthBias
  enableDepthBoundsTest := values .enableDepthBoundsTest
  enableStencilTest := values .enableStencilTest
  enablePrimitiveRestart := values .enablePrimitiveRestart
  enableRasterizerDiscard := values .enableRasterizerDiscard
  enableLogicOp := values .enableLogicOp
  lineWidth := values .lineWidth
  depthBiasConstantFactor := values .depthBiasConstantFactor
  depthBiasClamp := values .depthBiasClamp
  depthBiasSlopeFactor := values .depthBiasSlopeFactor
  minDepthBounds := values .minDepthBounds
  maxDepthBounds := values .maxDepthBounds
  viewport := values .viewport
  patchControlPoints := values .patchControlPoints

/-- The fields are all there is to a state. -/
theorem ofValues_values (state : RasterState) : ofValues state.values = state := rfl

private theorem values_ofValues (values : (field : RasterField) → field.Value) :
    (ofValues values).values = values := by
  funext field
  cases field <;> rfl

/-- The state with one field changed and all others as they were. -/
def change (state : RasterState) (change : FieldChange) : RasterState :=
  ofValues (Function.update state.values change.1 change.2)

theorem values_change (state : RasterState) (changed : FieldChange) :
    (state.change changed).values = Function.update state.values changed.1 changed.2 :=
  values_ofValues _

end RasterState

end GpuScript
