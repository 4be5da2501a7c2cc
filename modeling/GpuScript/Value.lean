import GpuScript.Number.Float

/-! The literal values of a script. A value has no width: who stores it picks one. -/
namespace GpuScript

/-- An integer as its 64-bit two's complement pattern, or a double. -/
inductive Value where
  | integer (bits : UInt64)
  | double (value : Double)
  deriving DecidableEq

namespace Value

instance : Inhabited Value := ⟨.integer 0⟩

def ofInt (value : Int) : Value := .integer (wrapWord value)

def isInteger : Value → Bool
  | .integer _ => true
  | .double _ => false

/-- The 64-bit pattern; a double gives its integer part held within the signed range. -/
def word : Value → UInt64
  | .integer bits => bits
  | .double value => wrapWord value.toInteger

def toInt (value : Value) : Int := signedWord value.word

/-- The value as a double; an integer counts as signed. -/
def toDouble : Value → Double
  | .integer bits => .ofInt (signedWord bits)
  | .double value => value

/-- The value as a single, by way of the double. -/
def toSingle (value : Value) : Single := value.toDouble.toSingle

/-- The low bits, unsigned. -/
def lowBits (value : Value) (width : Nat) : Nat := value.word.toNat % 2 ^ width

/-- The low bits in two's complement. -/
def lowSigned (value : Value) (width : Nat) : Int := (value.word.toNat : Int).bmod (2 ^ width)

end Value

end GpuScript
