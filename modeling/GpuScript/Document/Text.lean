import GpuScript.Document.Basic

/-! The JSON text of documents, on one line or with one member on each. Members stand in the order
of their names. -/
namespace GpuScript

/-- How a decimal is written: positional when its point is near, and with the fewest digits. -/
structure DecimalStyle where
  /-- Greatest point that is written positionally. -/
  greatestPoint : Int
  /-- Least point that is written positionally. -/
  leastPoint : Int
  /-- What follows a whole number. -/
  wholeSuffix : String
  /-- What stands before the exponent. -/
  exponentMark : String

namespace DecimalStyle

/-- The digits with a point after the first `whole` of them. -/
def insertPoint (digits : List Char) (whole : Nat) : String :=
  String.ofList (digits.take whole ++ '.' :: digits.drop whole)

/-- The text of a positive decimal. -/
def write (style : DecimalStyle) (decimal : Decimal) : String :=
  let digits := Nat.toDigits 10 decimal.digits
  let point := decimal.point
  if 0 ≤ decimal.exponent ∧ point ≤ style.greatestPoint then
    String.ofList (digits ++ List.replicate decimal.exponent.toNat '0') ++ style.wholeSuffix
  else if 0 < point ∧ point ≤ style.greatestPoint then insertPoint digits point.toNat
  else if style.leastPoint ≤ point ∧ point ≤ 0 then
    "0." ++ String.ofList (List.replicate (-point).toNat '0' ++ digits)
  else
    (if digits.length = 1 then String.ofList digits else insertPoint digits 1) ++
      style.exponentMark ++ toString (point - 1)

end DecimalStyle

namespace Document

/-- Numbers are positional from `0.00001` up to sixteen digits before the point. -/
def numberStyle : DecimalStyle := ⟨16, -4, ".0", "e"⟩

/-- A double with the fewest digits that read back; what is not finite is null. -/
def doubleText (value : Double) : String :=
  match value.decode with
  | .finite negative significand exponent =>
    (if negative then "-" else "") ++
      if significand = 0 then "0.0"
      else numberStyle.write (Double.shortestDecimal significand exponent)
  | _ => "null"

/-- Hexadecimal digits in lower case, at least as many as a width. -/
def hexadecimal (width value : Nat) : String :=
  let digits := Nat.toDigits 16 value
  String.ofList (List.replicate (width - digits.length) '0' ++ digits)

/-- A character of a string; quotes, backslashes and control characters are escaped. -/
def escape (letter : Char) : String :=
  if letter = '"' then "\\\""
  else if letter = '\\' then "\\\\"
  else if letter = '\n' then "\\n"
  else if letter = '\r' then "\\r"
  else if letter = '\t' then "\\t"
  else if letter = '\x08' then "\\b"
  else if letter = '\x0c' then "\\f"
  else if letter.toNat < 32 then "\\u" ++ hexadecimal 4 letter.toNat
  else String.singleton letter

def quote (text : String) : String := "\"" ++ String.join (text.toList.map escape) ++ "\""

/-- The members of a record in the order of their names. -/
def sortMembers {Item : Type} (members : List (String × Item)) : List (String × Item) :=
  members.mergeSort fun left right => decide (left.1 ≤ right.1)

mutual

/-- The text on one line. -/
def compact : Document → String
  | .null => "null"
  | .truth value => if value then "true" else "false"
  | .count value => toString value
  | .single value => doubleText (.ofSingle value)
  | .double value => doubleText value
  | .text value => quote value
  | .list items => "[" ++ ",".intercalate (compactItems items) ++ "]"
  | .record members =>
    "\x7b" ++ ",".intercalate ((sortMembers (compactMembers members)).map (·.2)) ++ "\x7d"

def compactItems : List Document → List String
  | [] => []
  | item :: items => compact item :: compactItems items

/-- Each member's name with the text of the whole member. -/
def compactMembers : List (String × Document) → List (String × String)
  | [] => []
  | (name, value) :: members => (name, quote name ++ ":" ++ compact value) :: compactMembers members

end

/-- Lines between brackets, one more step to the right than the brackets. -/
def block (indent : String) (first last : String) (lines : List String) : String :=
  if lines.isEmpty then first ++ last
  else
    let inner := "\n" ++ indent ++ "  "
    first ++ inner ++ ("," ++ inner).intercalate lines ++ "\n" ++ indent ++ last

mutual

/-- The text with one item or member on each line, two spaces further in at each level. -/
def pretty (indent : String) : Document → String
  | .null => "null"
  | .truth value => if value then "true" else "false"
  | .count value => toString value
  | .single value => doubleText (.ofSingle value)
  | .double value => doubleText value
  | .text value => quote value
  | .list items => block indent "[" "]" (prettyItems (indent ++ "  ") items)
  | .record members =>
    block indent "\x7b" "\x7d"
      ((sortMembers (prettyMembers (indent ++ "  ") members)).map (·.2))

def prettyItems (indent : String) : List Document → List String
  | [] => []
  | item :: items => pretty indent item :: prettyItems indent items

/-- Each member's name with the text of the whole member. -/
def prettyMembers (indent : String) : List (String × Document) → List (String × String)
  | [] => []
  | (name, value) :: members =>
    (name, quote name ++ ": " ++ pretty indent value) :: prettyMembers indent members

end

mutual

/-- What a reader of the text finds: singles are doubles, and numbers that are not finite null. -/
def readBack : Document → Document
  | .single value => ofFinite (.ofSingle value)
  | .double value => ofFinite value
  | .list items => .list (readBackItems items)
  | .record members => .record (readBackMembers members)
  | document => document
where
  /-- A double, or null for one that is not finite. -/
  ofFinite (value : Double) : Document :=
    match value.decode with
    | .finite .. => .double value
    | _ => .null

def readBackItems : List Document → List Document
  | [] => []
  | item :: items => readBack item :: readBackItems items

def readBackMembers : List (String × Document) → List (String × Document)
  | [] => []
  | (name, value) :: members => (name, readBack value) :: readBackMembers members

end

end Document

end GpuScript
