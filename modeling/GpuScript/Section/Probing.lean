import GpuScript.Section.Storage

namespace GpuScript

namespace Reader

/-- Takes a token that a probe reads if it is the one asked for. -/
def accept (token : Token) : Reader Bool := do
  if (← peek) = token then
    let _ ← next
    return true
  return false

/-- Takes a number that a comma may stand before. -/
def singleAfterComma : Reader Single := do
  let _ ← accept .comma
  single

/-- Numbers in or out of brackets. -/
def group (count : Nat) : Reader (List Single) := do
  let isOpen ← accept .openBracket
  let first ← single
  let others ← (List.replicate (count - 1) ()).mapM fun _ => singleAfterComma
  if (← peek) = .closeBracket then
    if !isOpen then refuse "Missing open bracket for probe command"
    let _ ← next
  else if isOpen then refuse "Missing close bracket for probe command"
  return first :: others

/-- Reads the channels of a probe. -/
def channels (token : Token) : Reader ProbeChannels :=
  match token.text with
  | "rgba" => pure .rgba
  | "rgb" => pure .rgb
  | _ => refuseAt "Invalid format specified to probe command" token

/-- The area of a probe: a point, or a rectangle. A point has the extent of one texel. -/
def areaOf : List Single → Rectangle
  | [x, y, width, height] => ⟨x, y, width, height⟩
  | [x, y] => ⟨x, y, .one, .one⟩
  | _ => ⟨.zero, .zero, .one, .one⟩

/-- The expected colour of a probe; without an alpha it is zero. -/
def colorOf : List Single → Color
  | [red, green, blue, alpha] => ⟨red, green, blue, alpha⟩
  | [red, green, blue] => ⟨red, green, blue, .zero⟩
  | _ => ⟨.zero, .zero, .zero, .zero⟩

/-- The next token of a probe, which must be a word. -/
def probeWord : Reader Token := do
  let token ← next
  if !token.isWord then refuseAt "Invalid token in probe command" token
  return token

def probe (first : Token) (start : Probe) : Reader Probe := do
  let isWholeWindow := first.text == "all"
  let isRectangle := isWholeWindow || first.text == "rect"
  let channels ← channels (← if isRectangle then probeWord else pure first)
  let area ← if isWholeWindow then pure [] else group (if isRectangle then 4 else 2)
  let color ← group (if channels = .rgba then 4 else 3)
  expectEnd "Extra parameter to probe command"
  return { start with
    isWholeWindow, isRectangle, channels, area := areaOf area, color := colorOf color }

/-- Reads tolerances, four at most, of which `found` are read already. Commas are passed over. -/
def tolerancesFrom : (found : Nat) → List Token → Except Fault (List Tolerance × List Token)
  | _, [] => .ok ([], [])
  | found, token :: rest =>
    if 4 ≤ found then .ok ([], token :: rest)
    else if token = .comma then tolerancesFrom found rest
    else if !token.isInteger && !token.isDouble then
      complain "Invalid value for tolerance command" token
    else do
      let value := (← token.asDouble).toDouble
      match rest with
      | .word "%" :: rest =>
        let (later, unread) ← tolerancesFrom (found + 1) rest
        return (⟨true, value⟩ :: later, unread)
      | .word word :: _ => complain "Invalid value for tolerance command" (.word word)
      | rest =>
        let (later, unread) ← tolerancesFrom (found + 1) rest
        return (⟨false, value⟩ :: later, unread)

def tolerances : Reader (List Tolerance) := do
  let (tolerances, unread) ← tolerancesFrom 0 (← takeRest)
  if tolerances.isEmpty then refuse "Missing value for tolerance command"
  if tolerances.length ≠ 1 ∧ tolerances.length ≠ 4 then
    refuse "Invalid number of tolerance parameters provided"
  match unread with
  | [] => return tolerances
  | token :: _ => refuseAt "Extra parameter for tolerance command" token

end Reader

namespace Session

def tolerance : Edit Session Unit := do
  let tolerances ← read Reader.tolerances
  modify fun session => { session with tolerances }

def probe (isRelative : Bool) : Edit Session Unit := do
  let first ← read Reader.next
  if !first.isWord then read (Reader.refuseAt "Invalid token in probe command" first)
  if first.text = "ssbo" then probeStorage
  else
    match (← pipeline).colorAttachments with
    | [] => throw (.complaint ⟨"Pipeline missing color buffers. Something went wrong.", none⟩)
    | attachment :: _ =>
      let line ← read Reader.line
      let tolerances := (← get).tolerances
      let start : Probe := { buffer := attachment.buffer, tolerances, isRelative }
      let probe ← read (Reader.probe first start)
      record (.probe line probe)

/-- What follows `relative`, which can only be a probe. -/
def relativeProbe : Edit Session Unit := do
  let token ← read Reader.next
  if token.text ≠ "probe" then read (Reader.refuseAt "relative must be used with probe" token)
  probe true

end Session

end GpuScript
