import GpuScript.Format.Basic
import GpuScript.Number.Decimal
import GpuScript.Text.Split

/-! Names of formats such as `R8G8B8A8_UNORM`: the name that a type has, and the type that a name
has. A name lists channels with their widths, each group followed by its mode. -/
namespace GpuScript

/-- A component in a name: its channel's letter and its width. -/
def Component.text (component : Component) : String :=
  String.singleton component.channel.letter ++ toString component.bits

namespace ElementType

/-- The components of a name before the pack width. One mode is written once at the end; several
are written after each component. -/
def componentText (components : List Component) (first : Component) : String :=
  if components.all (·.mode == first.mode) then
    String.join (components.map Component.text) ++ "_" ++ first.mode.suffix
  else "_".intercalate (components.map fun component =>
    component.text ++ "_" ++ component.mode.suffix)

/-- The name of a type, such as `R32G32B32_SFLOAT`. Matrices and empty types have none. -/
def name? (type : ElementType) : Option String :=
  if type.isMatrix then none
  else match type.components with
    | [] => none
    | first :: rest =>
      let pack := match type.packBits? with
        | some bits => "_PACK" ++ toString bits
        | none => ""
      some (componentText (first :: rest) first ++ pack)

/-- The type of these components: a scalar when there is only an unpacked red one. -/
def ofComponents (members : List Component) (packBits : Nat) : ElementType :=
  match members, packBits with
  | [⟨.red, mode, bits⟩], 0 => .number { mode, bits }
  | _, _ => .channels { members, packBits }

end ElementType

namespace FormatName

/-- The channel that a letter names among widths; stencil has a word of its own. -/
def channelOfLetter? : Char → Option Channel
  | 'R' => some .red
  | 'G' => some .green
  | 'B' => some .blue
  | 'A' => some .alpha
  | 'D' => some .depth
  | 'X' => some .unused
  | _ => none

/-- Reads letters with their widths, such as `R8G8B8A8`. A component without bits is dropped. -/
def readComponents? (mode : Mode) : List Char → Option (List Component)
  | [] => some []
  | letter :: text => do
    let channel ← channelOfLetter? letter
    let bits ← wordOfDigits? (text.takeWhile Char.isDigit)
    let rest ← readComponents? mode (text.dropWhile Char.isDigit)
    return if 0 < bits then ⟨channel, mode, bits⟩ :: rest else rest
termination_by text => text.length
decreasing_by
  have shorter := (List.dropWhile_sublist Char.isDigit (l := text)).length_le
  simp only [List.length_cons]
  omega

/-- What the words after a point of a name have said. -/
structure Suffix where
  mode : Mode := .signedInt
  packBits : Nat := 0
  members : List Component := []

/-- Takes in the word before a suffix. -/
def Suffix.take? (suffix : Suffix) (word : List Char) : Option Suffix :=
  match String.ofList word with
  | "" => none
  | "PACK8" => some { suffix with packBits := 8 }
  | "PACK16" => some { suffix with packBits := 16 }
  | "PACK32" => some { suffix with packBits := 32 }
  | "S8" => some { suffix with members := ⟨.stencil, suffix.mode, 8⟩ :: suffix.members }
  | text =>
    match Mode.ofSuffix? text with
    | some mode => some { suffix with mode }
    | none => do
      let members ← readComponents? suffix.mode word
      return { suffix with members := members ++ suffix.members }

/-- Reads words from the last to the first, so that a mode is known before its components. -/
def read? (text : List Char) : Option ElementType := do
  let suffix ← (splitAll '_' text).foldrM (fun word (suffix : Suffix) => suffix.take? word) {}
  if suffix.members.isEmpty then none else some (.ofComponents suffix.members suffix.packBits)

/-- The width and mode that a name such as `ubyte` gives to the components of a vertex. -/
def scalarOfData? : String → Option (Nat × Mode)
  | "byte" => some (8, .signedInt)
  | "ubyte" => some (8, .unsignedInt)
  | "short" => some (16, .signedInt)
  | "ushort" => some (16, .unsignedInt)
  | "int" => some (32, .signedInt)
  | "uint" => some (32, .unsignedInt)
  | "half" => some (16, .signedFloat)
  | "float" => some (32, .signedFloat)
  | "double" => some (64, .signedFloat)
  | _ => none

/-- The component count of a shader type such as `vec3`. -/
def countOfShaderType? (text : List Char) : Option Nat :=
  let vector (digits : List Char) :=
    (wordOfText? digits).filter fun count => 2 ≤ count && count ≤ 4
  if String.ofList text ∈ ["float", "double", "int", "uint"] then some 1
  else match text with
    | 'v' :: 'e' :: 'c' :: digits => vector digits
    | kind :: 'v' :: 'e' :: 'c' :: digits =>
      if kind ∈ ['d', 'i', 'u'] then vector digits else none
    | _ => none

/-- Reads the pair of a vertex data name and a shader type, such as `ubyte/vec4`. -/
def readPair? (data shader : List Char) : Option ElementType := do
  let (bits, mode) ← scalarOfData? (String.ofList data)
  let count ← countOfShaderType? shader
  return .ofComponents ((List.range count).map fun row => ⟨.ofRow row, mode, bits⟩) 0

end FormatName

/-- The type that a format name or a pair of vertex data and shader type spells. -/
def ElementType.ofName? (name : String) : Option ElementType :=
  match splitFirst? ['/'] name.toList with
  | some (data, shader) => FormatName.readPair? data shader
  | none => FormatName.read? name.toList

namespace Format

/-- A type under the default layout with the image format that its name has. -/
def ofType (type : ElementType) : Format :=
  { type, tag := type.name?.bind ImageFormat.ofName? }

/-- The format that a name spells, with the image format of the name or else of its type. -/
def ofName? (name : String) : Option Format := do
  let type ← ElementType.ofName? name
  match ImageFormat.ofName? name with
  | some tag => return { type, tag := some tag }
  | none => return .ofType type

end Format

end GpuScript
