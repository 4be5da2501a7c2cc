import GpuScript.Raster.Spelling
import GpuScript.Raster.State
import GpuScript.Section.Statement

namespace GpuScript

abbrev StateChange : Type := RasterState → RasterState

abbrev FieldTable (Item : Type) : Type := List (String × (Item → StateChange))

namespace Setting

def flagFields : FieldTable Bool :=
  [("primitiveRestartEnable", fun value state => { state with enablePrimitiveRestart := value }),
    ("depthClampEnable", fun value state => { state with enableDepthClamp := value }),
    ("rasterizerDiscardEnable", fun value state => { state with enableRasterizerDiscard := value }),
    ("depthBiasEnable", fun value state => { state with enableDepthBias := value }),
    ("logicOpEnable", fun value state => { state with enableLogicOp := value }),
    ("blendEnable", fun value state => { state with enableBlend := value }),
    ("depthTestEnable", fun value state => { state with enableDepthTest := value }),
    ("depthWriteEnable", fun value state => { state with enableDepthWrite := value }),
    ("depthBoundsTestEnable", fun value state => { state with enableDepthBoundsTest := value }),
    ("stencilTestEnable", fun value state => { state with enableStencilTest := value })]

def numberFields : FieldTable Single :=
  [("depthBiasConstantFactor", fun value state => { state with depthBiasConstantFactor := value }),
    ("depthBiasClamp", fun value state => { state with depthBiasClamp := value }),
    ("depthBiasSlopeFactor", fun value state => { state with depthBiasSlopeFactor := value }),
    ("lineWidth", fun value state => { state with lineWidth := value }),
    ("minDepthBounds", fun value state => { state with minDepthBounds := value }),
    ("maxDepthBounds", fun value state => { state with maxDepthBounds := value })]

def referenceFields : FieldTable Nat :=
  [("front.reference", fun value state => { state with frontReference := value }),
    ("back.reference", fun value state => { state with backReference := value })]

def topologyFields : FieldTable Topology :=
  [("topology", fun value state => { state with topology := value })]

def polygonModeFields : FieldTable PolygonMode :=
  [("polygonMode", fun value state => { state with polygonMode := value })]

def logicOpFields : FieldTable LogicOp :=
  [("logicOp", fun value state => { state with logicOp := value })]

def frontFaceFields : FieldTable FrontFace :=
  [("frontFace", fun value state => { state with frontFace := value })]

def blendFactorFields : FieldTable BlendFactor :=
  [("srcColorBlendFactor", fun value state => { state with srcColorBlendFactor := value }),
    ("dstColorBlendFactor", fun value state => { state with dstColorBlendFactor := value }),
    ("srcAlphaBlendFactor", fun value state => { state with srcAlphaBlendFactor := value }),
    ("dstAlphaBlendFactor", fun value state => { state with dstAlphaBlendFactor := value })]

def blendOpFields : FieldTable BlendOp :=
  [("colorBlendOp", fun value state => { state with colorBlendOp := value }),
    ("alphaBlendOp", fun value state => { state with alphaBlendOp := value })]

def compareOpFields : FieldTable CompareOp :=
  [("depthCompareOp", fun value state => { state with depthCompareOp := value }),
    ("front.compareOp", fun value state => { state with frontCompareOp := value }),
    ("back.compareOp", fun value state => { state with backCompareOp := value })]

def stencilOpFields : FieldTable StencilOp :=
  [("front.failOp", fun value state => { state with frontFailOp := value }),
    ("front.passOp", fun value state => { state with frontPassOp := value }),
    ("front.depthFailOp", fun value state => { state with frontDepthFailOp := value }),
    ("back.failOp", fun value state => { state with backFailOp := value }),
    ("back.passOp", fun value state => { state with backPassOp := value }),
    ("back.depthFailOp", fun value state => { state with backDepthFailOp := value })]

/-- Keywords of the language that no field stands behind. -/
def absentFields : List String :=
  ["front.compareMask", "front.writeMask", "back.compareMask", "back.writeMask"]

def close (keyword : String) : Reader Unit :=
  Reader.expectEnd s!"Extra parameter for {keyword} command"

/-- Takes the first token of a value, which `noun` names in a refusal. -/
def firstToken (keyword noun : String) : Reader Token := do
  let token ← Reader.next
  if token.isEnd then Reader.refuse s!"Missing {noun} for {keyword} command"
  return token

/-- Takes the first token of a value that is a word. -/
def firstWord (keyword noun : String) : Reader Token := do
  let token ← firstToken keyword noun
  if !token.isWord then Reader.refuseAt s!"Invalid {noun} for {keyword} command" token
  return token

def readFlag (keyword : String) : Reader Bool := do
  let token ← firstWord keyword "value"
  match truthOfWord? token.text with
  | none => Reader.refuseAt "Invalid value passed as a boolean string" token
  | some value =>
    close keyword
    return value

def readNumber (keyword : String) : Reader Single := do
  let token ← firstToken keyword "value"
  let double ← Reader.asDouble token
  close keyword
  return double.toSingle

def readReference (keyword : String) : Reader Nat := do
  let token ← firstToken keyword "parameter"
  if !token.isInteger then Reader.refuseAt s!"Invalid parameter for {keyword} command" token
  close keyword
  return token.low

/-- Reads one of some spellings; `unknown` is the refusal of any other word. -/
def readChoice {Item : Type} (spellings : List (String × Item)) (noun unknown keyword : String) :
    Reader Item := do
  let token ← firstWord keyword noun
  match spellings.lookup token.text with
  | none => Reader.refuseAt unknown token
  | some value =>
    close keyword
    return value

/-- Reads a spelling of an enumeration that has one field. -/
def readMode {Item : Type} (spellings : List (String × Item)) (keyword : String) : Reader Item :=
  readChoice spellings "value" s!"Unknown value for {keyword} command" keyword

/-- Reads a spelling of an enumeration that several fields share. -/
def readParameter {Item : Type} (spellings : List (String × Item)) (kind keyword : String) :
    Reader Item :=
  readChoice spellings "parameter" s!"Unknown {kind} provided" keyword

/-- Joins terms that stand between bars. Bars are skipped wherever they are. -/
def joinTerms {Item : Type} (term : Token → Except Fault Item) (join : Item → Item → Item)
    (empty : Item) (tokens : List Token) : Except Fault Item :=
  tokens.foldlM (fun joined token =>
    if token.text = "|" then .ok joined else (term token).map (join joined)) empty

/-- The term of a token, or a refusal of it. -/
def termOf {Item : Type} (spellings : List (String × Item)) (rule : String)
    (found : Token → String) (token : Token) : Except Fault Item :=
  match spellings.lookup token.text with
  | some item => .ok item
  | none => .error (.complaint ⟨rule, some (found token)⟩)

/-- Reads terms up to the end of the statement. -/
def readTerms {Item : Type} (keyword noun : String) (term : Token → Except Fault Item)
    (join : Item → Item → Item) (empty : Item) : Reader Item := do
  let first ← firstWord keyword noun
  let rest ← Reader.takeRest
  match joinTerms term join empty (first :: rest) with
  | .ok item => return item
  | .error fault => throw fault

def readCullMode : Reader CullMode :=
  readTerms "cullMode" "value"
    (termOf CullMode.stateSpellings "Unknown value for cullMode command" Token.spelling)
    CullMode.combine .none

def readColorWriteMask : Reader Nat :=
  readTerms "colorWriteMask" "parameter"
    (termOf colorComponentBits "Unknown parameter for colorWriteMask command" Token.text)
    (· ||| ·) 0

/-- The change that a field of a table takes, if the keyword names one. -/
def fromTable? {Item : Type} (fields : FieldTable Item) (reader : String → Reader Item)
    (keyword : String) : Option (Reader StateChange) :=
  (fields.lookup keyword).map fun assign => assign <$> reader keyword

/-- The reader of the change that a state command makes, if the keyword names one. -/
def reader? (keyword : String) : Option (Reader StateChange) :=
  fromTable? flagFields readFlag keyword
  <|> fromTable? numberFields readNumber keyword
  <|> fromTable? referenceFields readReference keyword
  <|> fromTable? topologyFields (readMode Topology.stateSpellings) keyword
  <|> fromTable? polygonModeFields (readMode PolygonMode.stateSpellings) keyword
  <|> fromTable? logicOpFields (readMode LogicOp.stateSpellings) keyword
  <|> fromTable? frontFaceFields (readMode FrontFace.stateSpellings) keyword
  <|> fromTable? blendFactorFields (readParameter BlendFactor.stateSpellings "BlendFactor") keyword
  <|> fromTable? blendOpFields (readParameter BlendOp.stateSpellings "BlendOp") keyword
  <|> fromTable? compareOpFields (readParameter CompareOp.stateSpellings "CompareOp") keyword
  <|> fromTable? stencilOpFields (readParameter StencilOp.stateSpellings "StencilOp") keyword
  <|> fromTable? [("cullMode", fun value state => { state with cullMode := value })]
    (fun _ => readCullMode) keyword
  <|> fromTable? [("colorWriteMask", fun value state => { state with colorWriteMask := value })]
    (fun _ => readColorWriteMask) keyword
  <|> if keyword ∈ absentFields then some (Reader.refuse s!"{keyword} not implemented") else none

end Setting

end GpuScript
