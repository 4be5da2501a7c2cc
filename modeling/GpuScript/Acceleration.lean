import GpuScript.Fault
import GpuScript.Number.Decimal
import GpuScript.Shader
import GpuScript.Store

namespace GpuScript

/-- The primitives that coordinates describe. -/
inductive GeometryKind where
  | triangle
  /-- A box along the axes, given by two corners. -/
  | aabb
  deriving DecidableEq, Inhabited

/-- Coordinates of primitives, three to a vertex. -/
structure Geometry where
  kind : GeometryKind
  coordinates : List Single
  deriving DecidableEq

namespace Geometry

def vertexCount (geometry : Geometry) : Nat := geometry.coordinates.length / 3

def primitiveCount (geometry : Geometry) : Nat :=
  match geometry.kind with
  | .triangle => geometry.vertexCount / 3
  | .aabb => geometry.vertexCount / 2

end Geometry

structure BottomLevel where
  name : String
  geometries : List Geometry := []
  deriving DecidableEq

/-- The placement of a bottom-level structure in a top-level one. An empty transform leaves it in
place; index and offset have 24 bits, mask and flags eight. -/
structure Placement where
  bottomName : String := ""
  bottom : Option (Id BottomLevel) := none
  transform : List Single := []
  index : Nat := 0
  mask : Nat := 255
  offset : Nat := 0
  flags : Nat := 0
  deriving DecidableEq

instance : Inhabited Placement := ⟨{}⟩

namespace Placement

/-- A value that fits into a number of bits. -/
def fit (field : String) (bits value : Nat) : Except Fault Nat :=
  if value < 2 ^ bits then .ok value else .error (.pipeline (.widthLimit field bits value))

def withBottom (placement : Placement) (name : String) (bottom : Id BottomLevel) : Placement :=
  { placement with bottomName := name, bottom := some bottom }

/-- Sets the transform: none, or three rows of four values. -/
def withTransform (placement : Placement) (transform : List Single) : Except Fault Placement :=
  if transform.isEmpty || transform.length == 12 then .ok { placement with transform }
  else .error (.pipeline (.transformSize transform.length))

def withIndex (placement : Placement) (value : Nat) : Except Fault Placement := do
  return { placement with index := ← fit "instance custom index" 24 value }

def withMask (placement : Placement) (value : Nat) : Except Fault Placement := do
  return { placement with mask := ← fit "instance mask" 8 value }

def withOffset (placement : Placement) (value : Nat) : Except Fault Placement := do
  return { placement with offset := ← fit "instance SBT record offset" 24 value }

def withFlags (placement : Placement) (value : Nat) : Except Fault Placement := do
  return { placement with flags := ← fit "instance flags" 8 value }

end Placement

structure TopLevel where
  name : String
  placements : List Placement := []
  deriving DecidableEq

/-- A group of shaders: a general one has a single shader, a hit group any of the other three. -/
structure ShaderGroup where
  name : String
  general : Option (Id Shader) := none
  closestHit : Option (Id Shader) := none
  anyHit : Option (Id Shader) := none
  intersection : Option (Id Shader) := none
  deriving DecidableEq

namespace ShaderGroup

def isGeneral (group : ShaderGroup) : Bool := group.general.isSome

def isHit (group : ShaderGroup) : Bool :=
  group.closestHit.isSome || group.anyHit.isSome || group.intersection.isSome

/-- The shaders of the group in the order of its fields. -/
def shaders (group : ShaderGroup) : List (Id Shader) :=
  [group.general, group.closestHit, group.anyHit, group.intersection].filterMap id

end ShaderGroup

/-- A record of a table: it fills slots with a group of the pipeline, or of a library when it has an
index. -/
structure TableRecord where
  group : String
  count : Nat := 1
  libraryIndex : Nat := wordMax
  deriving DecidableEq

structure BindingTable where
  name : String
  records : List TableRecord := []
  deriving DecidableEq

namespace BindingTable

/-- Slots of all records. -/
def size (table : BindingTable) : Nat := 
  table.records.foldr (fun record slots => record.count + slots) 0

end BindingTable

end GpuScript
