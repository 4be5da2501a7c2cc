import GpuScript.Number.Binary

/-! Single and double numbers as bit patterns, with the conversions between them and the integers.
Arithmetic on doubles is the machine's; everything else here is exact. -/
namespace GpuScript

structure Single where
  bits : UInt32
  deriving DecidableEq, Inhabited

structure Double where
  bits : UInt64
  deriving DecidableEq, Inhabited

/-- The 64-bit two's complement pattern of an integer. -/
def wrapWord (value : Int) : UInt64 := UInt64.ofNat (value % 2 ^ 64).toNat

/-- The integer a 64-bit pattern denotes in two's complement. -/
def signedWord (bits : UInt64) : Int :=
  if bits.toNat < 2 ^ 63 then bits.toNat else (bits.toNat : Int) - 2 ^ 64

namespace Single

def zero : Single := ⟨0⟩

def one : Single := ⟨0x3f800000⟩

def decode (value : Single) : BinaryNumber := BinaryLayout.single.decode value.bits.toNat

end Single

namespace Double

def zero : Double := ⟨0⟩

def one : Double := ⟨0x3ff0000000000000⟩

/-- The quiet positive NaN without payload. -/
def nan : Double := ⟨0x7ff8000000000000⟩

def decode (value : Double) : BinaryNumber := BinaryLayout.double.decode value.bits.toNat

/-- The double nearest to a ratio with its sign. -/
def ofRatio (negative : Bool) (numerator denominator : Nat) : Double :=
  ⟨UInt64.ofNat (BinaryLayout.double.withSign negative
    (BinaryLayout.double.roundMagnitude numerator denominator))⟩

/-- The double nearest to an integer; zero has no sign. -/
def ofInt (value : Int) : Double := ofRatio (value < 0) value.natAbs 1

/-- The double of a single, which is exact. -/
def ofSingle (value : Single) : Double :=
  ⟨UInt64.ofNat (BinaryLayout.double.encode BinaryLayout.single.fractionBits value.decode)⟩

/-- The single nearest to a double. -/
def toSingle (value : Double) : Single :=
  ⟨UInt32.ofNat (BinaryLayout.single.encode BinaryLayout.double.fractionBits value.decode)⟩

/-- The integer part, held within the signed 64-bit range; a NaN gives zero. -/
def toInteger (value : Double) : Int :=
  match value.decode with
  | .nan .. => 0
  | .infinite negative => if negative then -2 ^ 63 else 2 ^ 63 - 1
  | .finite negative significand exponent =>
    let magnitude : Nat := if 0 ≤ exponent then significand * 2 ^ exponent.toNat
      else significand / 2 ^ (-exponent).toNat
    let signed : Int := if negative then -(magnitude : Int) else magnitude
    max (-2 ^ 63) (min signed (2 ^ 63 - 1))

def isNaN (value : Double) : Bool :=
  match value.decode with
  | .nan .. => true
  | _ => false

/-- The machine's number with this pattern. -/
def toFloat (value : Double) : Float := Float.ofBits value.bits

/-- The pattern of a machine number. -/
def ofFloat (value : Float) : Double := ⟨value.toBits⟩

end Double

end GpuScript
