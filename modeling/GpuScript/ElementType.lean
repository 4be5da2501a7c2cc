namespace GpuScript

/-- How the bits of a component are read as a number. -/
inductive Mode where
  | signedInt
  | unsignedInt
  | signedNorm
  | unsignedNorm
  | signedScaled
  | unsignedScaled
  | signedFloat
  | unsignedFloat
  | srgb
  deriving DecidableEq, Inhabited

namespace Mode

/-- Integer-backed modes with a sign. -/
def isSigned : Mode → Bool
  | signedInt | signedNorm | signedScaled => true
  | _ => false

/-- Integer-backed modes without a sign. -/
def isUnsigned : Mode → Bool
  | unsignedInt | unsignedNorm | unsignedScaled | srgb => true
  | _ => false

/-- Float-backed modes. -/
def isFloat : Mode → Bool
  | signedFloat | unsignedFloat => true
  | _ => false

/-- Modes whose integers stand for fractions of one. -/
def isNormalized : Mode → Bool
  | signedNorm | unsignedNorm | srgb => true
  | _ => false

/-- The word that names the mode in an image format. -/
def suffix : Mode → String
  | signedInt => "SINT"
  | unsignedInt => "UINT"
  | signedNorm => "SNORM"
  | unsignedNorm => "UNORM"
  | signedScaled => "SSCALED"
  | unsignedScaled => "USCALED"
  | signedFloat => "SFLOAT"
  | unsignedFloat => "UFLOAT"
  | srgb => "SRGB"

/-- All modes. -/
def all : List Mode :=
  [signedInt, unsignedInt, signedNorm, unsignedNorm, signedScaled, unsignedScaled, signedFloat,
    unsignedFloat, srgb]

/-- The mode that a word names. -/
def ofSuffix? (word : String) : Option Mode := all.find? (·.suffix == word)

end Mode

/-- The channel that a component feeds. -/
inductive Channel where
  | red
  | green
  | blue
  | alpha
  | depth
  | stencil
  | unused
  deriving DecidableEq, Inhabited

namespace Channel

/-- The letter that names the channel in an image format. -/
def letter : Channel → Char
  | red => 'R'
  | green => 'G'
  | blue => 'B'
  | alpha => 'A'
  | depth => 'D'
  | stencil => 'S'
  | unused => 'X'

/-- The channel of a row of a vector; rows past the fourth feed alpha again. -/
def ofRow : Nat → Channel
  | 0 => red
  | 1 => green
  | 2 => blue
  | _ => alpha

end Channel

/-- One component: its channel, how its bits are read, and how many there are. -/
structure Component where
  channel : Channel
  mode : Mode
  bits : Nat
  deriving DecidableEq, Inhabited

/-- Bytes that hold this many bits. -/
def bytesFor (bits : Nat) : Nat := (bits + 7) / 8

namespace Component

def size (component : Component) : Nat := bytesFor component.bits

end Component

/-- The storage of a scalar that a format is asked about: a kind of number and its width. -/
inductive Storage where
  | int (bits : Nat)
  | uint (bits : Nat)
  | float (bits : Nat)
  deriving DecidableEq

/-- A mode and width are stored this way. -/
def Storage.holds (storage : Storage) (mode : Mode) (bits : Nat) : Bool :=
  match storage with
  | .int width => mode.isSigned && bits == width
  | .uint width => mode.isUnsigned && bits == width
  | .float width => mode.isFloat && bits == width

structure NumberType where
  mode : Mode
  bits : Nat
  rows : Nat := 1
  columns : Nat := 1
  deriving DecidableEq, Inhabited

namespace NumberType

/-- Bytes of one scalar. -/
def scalarSize (number : NumberType) : Nat := bytesFor number.bits

/-- The components of one column. -/
def column (number : NumberType) : List Component :=
  (List.range number.rows).map fun row => ⟨.ofRow row, number.mode, number.bits⟩

end NumberType

/-- A list of channels in memory order; with a pack width it is one opaque slot of that width. -/
structure ChannelList where
  members : List Component
  packBits : Nat := 0
  deriving DecidableEq, Inhabited

namespace ChannelList

def isPacked (list : ChannelList) : Bool := 0 < list.packBits

def size (list : ChannelList) : Nat :=
  if list.isPacked then list.packBits / 8
  else list.members.foldr (fun member bytes => member.size + bytes) 0

end ChannelList

/-- The type of an element of a buffer or image. -/
inductive ElementType where
  | number (number : NumberType)
  | channels (list : ChannelList)
  deriving DecidableEq

namespace ElementType

/-- Rows of a vector, or members of a list. -/
def rows : ElementType → Nat
  | number n => n.rows
  | channels list => list.members.length

def columns : ElementType → Nat
  | number n => n.columns
  | channels _ => 1

def isVec3 (type : ElementType) : Bool := type.rows == 3 && type.columns == 1

def isMatrix (type : ElementType) : Bool := 1 < type.columns

def number? : ElementType → Option NumberType
  | number n => some n
  | channels _ => none

/-- The pack width of a packed list. -/
def packBits? : ElementType → Option Nat
  | number _ => none
  | channels list => if list.isPacked then some list.packBits else none

def isPacked (type : ElementType) : Bool := type.packBits?.isSome

/-- Bytes of one element without padding. -/
def size : ElementType → Nat
  | number n => n.scalarSize * n.rows * n.columns
  | channels list => list.size

/-- The components of one column in memory order. -/
def components : ElementType → List Component
  | number n => n.column
  | channels list => list.members

end ElementType

end GpuScript
