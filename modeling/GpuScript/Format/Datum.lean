import GpuScript.Fault
import GpuScript.Format.Name

/-! Names of data types in commands: scalars such as `uint8_t`, vectors such as `i16vec2`, matrices
such as `dmat4x3`, and every other name as a format name. -/
namespace GpuScript

namespace DatumName

/-- The scalar that a name is. -/
def scalar? : String → Option NumberType
  | "int" => some { mode := .signedInt, bits := 32 }
  | "uint" => some { mode := .unsignedInt, bits := 32 }
  | "int8_t" => some { mode := .signedInt, bits := 8 }
  | "uint8_t" => some { mode := .unsignedInt, bits := 8 }
  | "int16_t" => some { mode := .signedInt, bits := 16 }
  | "uint16_t" => some { mode := .unsignedInt, bits := 16 }
  | "int64_t" => some { mode := .signedInt, bits := 64 }
  | "uint64_t" => some { mode := .unsignedInt, bits := 64 }
  | "float" => some { mode := .signedFloat, bits := 32 }
  | "double" => some { mode := .signedFloat, bits := 64 }
  | _ => none

/-- The mode and width that the letters before `vec` give. -/
def vectorScalar? : List Char → Option (Mode × Nat)
  | [] => some (.signedFloat, 32)
  | letter :: width => do
    let (mode, plain) ← match letter with
      | 'i' => some (Mode.signedInt, 32)
      | 'u' => some (Mode.unsignedInt, 32)
      | 'd' => some (Mode.signedFloat, 64)
      | _ => none
    let bits ← match String.ofList width with
      | "" => some plain
      | "8" => some 8
      | "16" => some 16
      | "64" => some 64
      | _ => none
    return (mode, bits)

/-- A row or column count from two to four. -/
def dimension? (text : List Char) : Option Nat :=
  (wordOfText? text).filter fun count => 2 ≤ count && count ≤ 4

/-- The vector with this text before and after `vec`; without a count it has four rows. -/
def vector? (before after : List Char) : Option NumberType := do
  let (mode, bits) ← vectorScalar? before
  let rows ← if after.isEmpty then some 4 else dimension? after
  return { mode, bits, rows }

/-- The columns and rows of the text after `mat`. -/
def shape? (text : List Char) : Option (Nat × Nat) :=
  match splitFirst? ['x'] text with
  | some (columns, rows) => do return (← dimension? columns, ← dimension? rows)
  | none =>
    if text.isEmpty then some (4, 4)
    else (dimension? text).map fun count => (count, count)

/-- The matrix with this text before and after `mat`. -/
def matrix? (before after : List Char) : Option NumberType := do
  let bits ← match before with
    | [] => some 32
    | ['d'] => some 64
    | _ => none
  let (columns, rows) ← shape? after
  return { mode := .signedFloat, bits, rows, columns }

end DatumName

/-- The type that a data type name spells. A name with `vec` or `mat` in it is a vector or a matrix
or nothing. -/
def ElementType.ofDatum? (name : String) : Option ElementType :=
  match DatumName.scalar? name with
  | some scalar => some (.number scalar)
  | none =>
    match splitFirst? ['v', 'e', 'c'] name.toList with
    | some (before, after) => (DatumName.vector? before after).map .number
    | none =>
      match splitFirst? ['m', 'a', 't'] name.toList with
      | some (before, after) => (DatumName.matrix? before after).map .number
      | none => ElementType.ofName? name

/-- The type of a data type name, or the fault that it spells none. -/
def ElementType.ofDatum (name : String) : Except Fault ElementType :=
  match ElementType.ofDatum? name with
  | some type => .ok type
  | none => .error (.codec (.unknownType name))

/-- The format of a data type name, tagged with its image format where there is one. -/
def Format.ofDatum (name : String) : Except Fault Format :=
  (ElementType.ofDatum name).map Format.ofType

end GpuScript
