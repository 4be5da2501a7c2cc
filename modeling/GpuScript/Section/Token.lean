import GpuScript.Fault
import GpuScript.Number.Float

namespace GpuScript

inductive Token where
  /-- A bare word, or a quoted text without its quotes and escapes. -/
  | word (text : String)
  /-- An integer literal with its 64-bit pattern. -/
  | integer (bits : UInt64) (negative : Bool) (text : String)
  | double (value : Double) (negative : Bool) (text : String)
  | openBracket
  | closeBracket
  | comma
  | endOfLine
  | endOfText
  deriving DecidableEq

namespace Token

def isWord : Token → Bool
  | word _ => true
  | _ => false

def isInteger : Token → Bool
  | integer .. => true
  | _ => false

def isDouble : Token → Bool
  | double .. => true
  | _ => false

/-- The token closes a statement. -/
def isEnd : Token → Bool
  | endOfLine | endOfText => true
  | _ => false

/-- A number that is written with a minus sign. -/
def isNegative : Token → Bool
  | integer _ negative _ | double _ negative _ => negative
  | _ => false

/-- The text of a word; nothing for any other token. -/
def text : Token → String
  | word text => text
  | _ => ""

/-- The token as written, for complaints. -/
def spelling : Token → String
  | word text | integer _ _ text | double _ _ text => text
  | openBracket => "("
  | closeBracket => ")"
  | comma => ","
  | endOfLine => "\n"
  | endOfText => ""

/-- The 64-bit pattern of a number. -/
def bits : Token → UInt64
  | integer bits _ _ => bits
  | double value _ _ => wrapWord value.toInteger
  | _ => 0

/-- The low 32 bits of a number. -/
def low (token : Token) : Nat := token.bits.toNat % 2 ^ 32

/-- The low 32 bits of a number as a signed one. -/
def lowSigned (token : Token) : Int := (token.bits.toNat : Int).bmod (2 ^ 32)

/-- The number as a signed 64-bit one. -/
def signed (token : Token) : Int := signedWord token.bits

/-- The value of a double token; zero for any other. -/
def toDouble : Token → Double
  | double value _ _ => value
  | _ => .zero

/-- The value of a double token as a single. -/
def toSingle (token : Token) : Single := token.toDouble.toSingle

/-- The token read as a double. An unsigned literal past the signed range is refused. -/
def asDouble : Token → Except Fault Token
  | double value negative text => .ok (double value negative text)
  | integer bits negative text =>
    if !negative && 2 ^ 63 ≤ bits.toNat then .error (.codec .integerTooBig)
    else .ok (double (.ofInt (signedWord bits)) negative text)
  | _ => .error (.codec .notANumber)

end Token

end GpuScript
