import GpuScript.Document.Basic
import GpuScript.Format.Basic
import GpuScript.Label
import GpuScript.Value

namespace GpuScript

namespace Mode

def label : Mode → String
  | .signedInt => "s_int"
  | .unsignedInt => "u_int"
  | .signedNorm => "s_norm"
  | .unsignedNorm => "u_norm"
  | .signedScaled => "s_scaled"
  | .unsignedScaled => "u_scaled"
  | .signedFloat => "s_float"
  | .unsignedFloat => "u_float"
  | .srgb => "srgb"

instance : Labelled Mode where
  all := all
  label := label
  complete := by intro value; cases value <;> decide
  distinct := by decide

end Mode

namespace Layout

def label : Layout → String
  | .std140 => "std140"
  | .std430 => "std430"
  | .packed => "packed"

def all : List Layout := [.std140, .std430, .packed]

instance : Labelled Layout where
  all := all
  label := label
  complete := by intro value; cases value <;> decide
  distinct := by decide

end Layout

namespace Channel

def all : List Channel := [.red, .green, .blue, .alpha, .depth, .stencil, .unused]

def label (channel : Channel) : String := String.singleton channel.letter

instance : Labelled Channel where
  all := all
  label := label
  complete := by intro value; cases value <;> decide
  distinct := by decide

end Channel

namespace Document

def ofValue : Value → Document
  | .integer bits => tagged "kind" "int" [("value", .count bits.toNat)]
  | .double value => tagged "kind" "double" [("value", .double value)]

def componentFields (component : Component) : List (String × Document) :=
  [("name", .text component.channel.label), ("mode", .text component.mode.label),
    ("bits", .count component.bits)]

def ofComponent (component : Component) : Document := .record (componentFields component)

def ofType : ElementType → Document
  | .number number =>
    tagged "kind" "number" [("mode", .text number.mode.label), ("bits", .count number.bits),
      ("row_count", .count number.rows), ("column_count", .count number.columns)]
  | .channels channels =>
    tagged "kind" "list" [("members", listOf ofComponent channels.members),
      ("pack_size_in_bits", .count channels.packBits)]

def ofSegment : Segment → Document
  | .padding bytes => tagged "kind" "padding" [("bytes", .count bytes)]
  | .component component => tagged "kind" "component" (componentFields component)

/-- The name of an image format, or the word for having none. -/
def ofImageFormat (tag : Option ImageFormat) : Document :=
  .text (match tag with
    | some tag => tag.name
    | none => "Unknown")

def ofFormat (format : Format) : Document :=
  .record [("format_type", ofImageFormat format.tag), ("layout", .text format.layout.label),
    ("type", ofType format.type), ("segments", listOf ofSegment format.segments)]

end Document

end GpuScript
