import GpuScript.Raster.Spelling
import GpuScript.Section.Session

namespace GpuScript

namespace Reader

/-- What stands before the first vertex of an array draw. -/
structure ArrayOptions where
  indexed : Bool := false
  instanced : Bool := false
  topology : Option Topology := none

/-- Reads options up to the topology. -/
def arrayOptions : ArrayOptions → List Cursor.Lexeme →
    Except Fault (ArrayOptions × List Cursor.Lexeme)
  | options, [] => .ok (options, [])
  | options, lexeme :: rest =>
    if !lexeme.token.isWord then .ok (options, lexeme :: rest)
    else match lexeme.token.text with
      | "indexed" => arrayOptions { options with indexed := true } rest
      | "instanced" => arrayOptions { options with instanced := true } rest
      | word =>
        match Topology.drawSpellings.lookup word with
        | some topology => .ok ({ options with topology := some topology }, rest)
        | none => complain "Unknown parameter to draw arrays" lexeme.token

def arrayDraw : Reader ArrayDraw := do
  let words ← get
  let (options, rest) ← arrayOptions {} words.rest
  match options.topology with
  | none => refuse "Missing draw arrays topology"
  | some topology =>
    set { words with rest }
    let firstVertex ← integer "Missing integer first vertex value for draw arrays"
    let vertexCount ← integer "Missing integer vertex count value for draw arrays"
    let following ← peek
    let instanceCount ← if options.instanced && !following.isEnd then
        Token.low <$> integer "Invalid instance count for draw arrays"
      else pure 1
    expectEnd "Extra parameter to draw arrays command"
    return { indexed := options.indexed, instanced := options.instanced, topology
             firstVertex := firstVertex.low, vertexCount := vertexCount.low, instanceCount }

/-- The shape of a rectangle draw: orthographic, as a patch, and where. -/
structure RectangleDraw where
  isOrtho : Bool
  isPatch : Bool
  area : Rectangle

def rectangleDraw : Reader RectangleDraw := do
  let options ← takeWords
  if let some word := options.find? fun word => word != "ortho" && word != "patch" then
    refuseAt "Unknown parameter to draw rect" (.word word)
  let x ← single
  let y ← single
  let width ← single
  let height ← single
  expectEnd "Extra parameter to draw rect command"
  return ⟨options.contains "ortho", options.contains "patch", ⟨x, y, width, height⟩⟩

def gridSize (first : Token) : Reader GridSize := do
  if !first.isInteger then refuseAt "Missing integer value for compute X entry" first
  let y ← integer "Missing integer value for compute Y entry"
  let z ← integer "Missing integer value for compute Z entry"
  expectEnd "Extra parameter to compute command"
  return ⟨first.low, y.low, z.low⟩

/-- Reads the stencil value of a clear. -/
def stencilValue : Reader Nat := do
  let token ← next
  if token.isEnd then refuseAt "Missing stencil value for clear stencil command" token
  if !token.isInteger then refuseAt "Invalid stencil value for clear stencil command" token
  return token.low

def color : Reader Color := do
  let red ← single
  let green ← single
  let blue ← single
  let alpha ← single
  return ⟨red, green, blue, alpha⟩

def entryPointName : Reader String := do
  let token ← next
  if token.isEnd then refuse "Missing entrypoint name"
  if !token.isWord then refuseAt "Entrypoint name must be a string" token
  expectEnd "Extra parameter for entrypoint command"
  return token.text

def patchVertexCount : Reader Nat := do
  let parameter ← next
  if parameter.text ≠ "parameter" then
    refuseAt "Missing parameter flag to patch command" parameter
  let vertices ← next
  if vertices.text ≠ "vertices" then refuseAt "Missing vertices flag to patch command" vertices
  let count ← integer "Invalid count parameter for patch parameter vertices"
  expectEnd "Extra parameter for patch parameter vertices command"
  return count.low

end Reader

namespace Session

def drawRectangle : Edit Session Unit := do
  let head ← headAt (← read Reader.line)
  if 1 < (← pipeline).vertexBuffers.length then
    throw (.complaint ⟨"draw rect command is not supported in a pipeline with more than one " ++
      "vertex buffer attached", none⟩)
  let draw ← read Reader.rectangleDraw
  record (.drawRect head (← get).state draw.isOrtho draw.isPatch draw.area)

def drawArrays : Edit Session Unit := do
  let head ← headAt (← read Reader.line)
  let draw ← read Reader.arrayDraw
  record (.drawArrays head (← get).state draw)

def draw : Edit Session Unit := do
  let token ← read Reader.next
  if !token.isWord then read (Reader.refuseAt "Invalid draw command in test" token)
  match token.text with
  | "rect" => drawRectangle
  | "arrays" => drawArrays
  | _ => read (Reader.refuseAt "Unknown draw command" token)

/-- What follows `clear`: nothing, or an aspect with the value that later clears use. -/
def clear : Edit Session Unit := do
  let token ← read Reader.next
  let head ← headAt (← read Reader.line)
  if token.isEnd then record (.clear head)
  else
    let command ← match token.text with
      | "depth" => pure (.clearDepth head (← read Reader.single))
      | "stencil" => pure (.clearStencil head (← read Reader.stencilValue))
      | "color" => pure (.clearColor head (← read Reader.color))
      | _ => read (Reader.refuseAt "Extra parameter to clear command" token)
    let aspect := token.text
    read (Reader.expectEnd s!"Extra parameter to clear {aspect} command")
    record command

def entryPoint (stage : ShaderStage) : Edit Session Unit := do
  let head ← headAt (← read Reader.line)
  let name ← read Reader.entryPointName
  record (.entryPoint head stage name)

/-- What follows `compute`: an entry point or the size of a dispatch. -/
def compute : Edit Session Unit := do
  let head ← headAt (← read Reader.line)
  let token ← read Reader.next
  if token.text = "entrypoint" then entryPoint .compute
  else
    let groups ← read (Reader.gridSize token)
    record (.compute head groups)

def patch : Edit Session Unit := do
  let head ← headAt (← read Reader.line)
  let count ← read Reader.patchVertexCount
  changeState fun state => { state with patchControlPoints := count }
  record (.patchVertices head count)

/-- What follows the words that name a stage, which can only be an entry point. -/
def stage (words : String) (stage : ShaderStage) : Edit Session Unit := do
  let token ← read Reader.next
  if token.text ≠ "entrypoint" then read (Reader.refuseAt "Unknown command" (.word words))
  entryPoint stage

def tessellation : Edit Session Unit := do
  let token ← read Reader.next
  match token.text with
  | "control" => stage "tessellation control" .tessellationControl
  | "evaluation" => stage "tessellation evaluation" .tessellationEvaluation
  | _ =>
    read (Reader.refuseAt "Tessellation entrypoint must have <evaluation|control> in name" token)

end Session

end GpuScript
