import GpuScript.Acceleration
import GpuScript.Document.Buffer
import GpuScript.Document.Shader

namespace GpuScript

namespace GeometryKind

def label : GeometryKind → String
  | .triangle => "triangle"
  | .aabb => "aabb"

def all : List GeometryKind :=
  [.triangle, .aabb]

instance : Labelled GeometryKind where
  all := all
  label := label
  complete := by intro value; cases value <;> decide
  distinct := by decide

end GeometryKind

namespace Document

def ofGeometry (geometry : Geometry) : Document :=
  .record [("geometry_type", .text geometry.kind.label),
    ("data", listOf .single geometry.coordinates)]

def ofBottomLevel (bottom : BottomLevel) : Document :=
  .record [("name", .text bottom.name), ("geometries", listOf ofGeometry bottom.geometries)]

def ofPlacement (placement : Placement) : Document :=
  .record [("blas_name", .text placement.bottomName), ("blas", optional ofId placement.bottom),
    ("transform", listOf .single placement.transform),
    ("instance_index", .count placement.index), ("mask", .count placement.mask),
    ("offset", .count placement.offset), ("flags", .count placement.flags)]

def ofTopLevel (top : TopLevel) : Document :=
  .record [("name", .text top.name), ("instances", listOf ofPlacement top.placements)]

def ofGroup (group : ShaderGroup) : Document :=
  .record [("name", .text group.name), ("general", optional ofId group.general),
    ("closest_hit", optional ofId group.closestHit), ("any_hit", optional ofId group.anyHit),
    ("intersection", optional ofId group.intersection)]

def ofTableRecord (entry : TableRecord) : Document :=
  .record [("shader_group", .text entry.group), ("count", .count entry.count),
    ("pipeline_index", .count entry.libraryIndex)]

def ofTable (table : BindingTable) : Document :=
  .record [("name", .text table.name), ("records", listOf ofTableRecord table.records)]

end Document

end GpuScript
