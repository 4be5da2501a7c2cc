import GpuScript.Number.Decimal
import GpuScript.Section.Token
import GpuScript.Text.Split

/-! Reading tokens off a text. Blanks and brackets separate words, `#` hides the rest of a line, a
lone backslash before a line's end joins two lines, and a word that begins with a number is cut
after it. Main statement: every token but the end of the text takes at least one character. -/
namespace GpuScript

/-- The unread text and the number of the line it begins on. -/
structure Cursor where
  rest : List Char
  line : Nat
  deriving DecidableEq

namespace Cursor

/-- A character that is skipped before a token. -/
def isBlank (letter : Char) : Bool :=
  letter == '\x00' || letter == '\t' || letter == '\r' || letter == '\x0c' || letter == ' '

/-- A character that a word ends before. -/
def endsWord (letter : Char) : Bool :=
  letter == ' ' || letter == '\r' || letter == '\n' || letter == '(' || letter == ')' ||
    letter == ','

/-- What a backslash and a letter stand for in a quoted text. -/
def unescape : Char → Char
  | 'a' => '\x07'
  | 'b' => '\x08'
  | 't' => '\t'
  | 'n' => '\n'
  | 'v' => '\x0b'
  | 'f' => '\x0c'
  | 'r' => '\r'
  | letter => letter

/-- A line break counts as one line. -/
def lineBreaks (text : List Char) : Nat := text.count '\n'

/-- A quoted text after its opening quote. -/
structure Quoted where
  text : List Char
  rest : List Char
  lines : Nat

/-- Takes one more character of source into a quoted text. -/
def Quoted.push (quoted : Quoted) (letter source : Char) : Quoted :=
  { quoted with
    text := letter :: quoted.text
    lines := quoted.lines + if source = '\n' then 1 else 0 }

/-- Reads up to the closing quote, or to the end of the text. -/
def readQuoted : (escaped : Bool) → List Char → Quoted
  | _, [] => ⟨[], [], 0⟩
  | true, letter :: rest => (readQuoted false rest).push (unescape letter) letter
  | false, '\\' :: rest => readQuoted true rest
  | false, '"' :: rest => ⟨[], rest, 0⟩
  | false, letter :: rest => (readQuoted false rest).push letter letter

/-- The longest number at the front of a word: its text, and whether it is a double. -/
structure NumberSpan where
  length : Nat
  isDouble : Bool

def digitCount (text : List Char) : Nat := (text.takeWhile Char.isDigit).length

/-- The length of an exponent with its mark, or zero. -/
def exponentLength : List Char → Nat
  | mark :: text =>
    if mark = 'e' ∨ mark = 'E' then
      let signs := match text with
        | '-' :: _ | '+' :: _ => 1
        | _ => 0
      let digits := digitCount (text.drop signs)
      if 0 < digits then 1 + signs + digits else 0
    else 0
  | [] => 0

/-- Measures the number at the front of a word; a length of zero means there is none. -/
def numberSpan (word : List Char) : NumberSpan :=
  let sign := match word with
    | '-' :: _ | '+' :: _ => 1
    | _ => 0
  let whole := digitCount (word.drop sign)
  let afterWhole := word.drop (sign + whole)
  let fraction := match afterWhole with
    | '.' :: text => digitCount text
    | _ => 0
  if whole + fraction = 0 then ⟨0, false⟩
  else
    let pointLength := if afterWhole.head? = some '.' then 1 + fraction else 0
    let mantissa := sign + whole + pointLength
    let exponent := exponentLength (word.drop mantissa)
    ⟨mantissa + exponent, 0 < pointLength || 0 < exponent⟩

/-- A word reads as a number only when a digit stands first or second after a minus or a point. -/
def startsNumber : List Char → Bool
  | first :: second :: _ => first.isDigit || ((first == '-' || first == '.') && second.isDigit)
  | first :: _ => first.isDigit
  | [] => false

def isHexDigit (letter : Char) : Bool :=
  letter.isDigit || ('a' ≤ letter && letter ≤ 'f') || ('A' ≤ letter && letter ≤ 'F')

/-- The value of a hexadecimal digit. -/
def hexValue (letter : Char) : Nat :=
  if letter.isDigit then letter.toNat - '0'.toNat
  else if 'a' ≤ letter then letter.toNat - 'a'.toNat + 10
  else letter.toNat - 'A'.toNat + 10

/-- A number held below `2 ^ 64`. -/
def saturate (value : Nat) : UInt64 := UInt64.ofNat (min value (2 ^ 64 - 1))

/-- The integer token of a decimal literal with or without a minus. -/
def integerToken (literal : List Char) : Token :=
  match literal with
  | '-' :: digits => .integer (0 - saturate (Decimal.ofDigits digits)) true (String.ofList literal)
  | digits => .integer (saturate (Decimal.ofDigits digits)) false (String.ofList literal)

/-- A token and the part of its word that it leaves unread. -/
abbrev WordReading := Token × List Char

/-- Reads `0x` and hexadecimal digits. -/
def readHex? : List Char → Option WordReading
  | '0' :: 'x' :: text =>
    let digits := text.takeWhile isHexDigit
    if digits.isEmpty then none
    else
      let value := digits.foldl (fun value digit => 16 * value + hexValue digit) 0
      some (.integer (saturate value) false (String.ofList ('0' :: 'x' :: digits)),
        text.dropWhile isHexDigit)
  | _ => none

def readNumber? (word : List Char) : Option WordReading :=
  let span := numberSpan word
  if !startsNumber word || span.length = 0 then none
  else
    let literal := word.take span.length
    let token := if span.isDouble then
        .double (.ofLiteral literal) (literal.head? == some '-') (String.ofList literal)
      else integerToken literal
    some (token, word.drop span.length)

/-- Reads a word: a NaN, a hexadecimal or decimal number at its front, or the word itself. -/
def readWord (word : List Char) : WordReading :=
  if word.map Char.toLower = ['n', 'a', 'n'] then (.double .nan false (String.ofList word), [])
  else ((readHex? word).orElse fun _ => readNumber? word).getD (.word (String.ofList word), [])

theorem length_dropWhile_le (keep : Char → Bool) (text : List Char) :
    (text.dropWhile keep).length ≤ text.length :=
  (List.dropWhile_sublist keep).length_le

theorem length_readHex? {word : List Char} {reading : WordReading}
    (found : readHex? word = some reading) : reading.2.length < word.length := by
  unfold readHex? at found
  split at found
  · rename_i text
    have bound := length_dropWhile_le isHexDigit text
    dsimp only at found
    split at found
    · cases found
    · cases found
      simp only [List.length_cons]
      omega
  · cases found

theorem length_readNumber? {word : List Char} {reading : WordReading} (nonempty : word ≠ [])
    (found : readNumber? word = some reading) : reading.2.length < word.length := by
  have positive : 0 < word.length := List.length_pos_iff.mpr nonempty
  unfold readNumber? at found
  dsimp only at found
  split at found
  · cases found
  · rename_i spans
    cases found
    simp only [Bool.or_eq_true, decide_eq_true_eq, not_or] at spans
    simp only [List.length_drop]
    omega

theorem length_readWord {word : List Char} (nonempty : word ≠ []) :
    (readWord word).2.length < word.length := by
  have positive : 0 < word.length := List.length_pos_iff.mpr nonempty
  unfold readWord
  split
  · exact positive
  · cases hex : readHex? word with
    | some reading => simpa using length_readHex? hex
    | none =>
      cases number : readNumber? word with
      | some reading => simpa using length_readNumber? nonempty number
      | none => simpa using positive

theorem length_readQuoted (escaped : Bool) (text : List Char) :
    (readQuoted escaped text).rest.length ≤ text.length := by
  fun_induction readQuoted escaped text <;> simp_all [Quoted.push] <;> omega

/-- The unread text without the blanks at its front. -/
def skipBlanks (text : List Char) : List Char := text.dropWhile isBlank

theorem isBlank_skipBlanks {text tail : List Char} {head : Char}
    (found : skipBlanks text = head :: tail) : isBlank head = false := by
  induction text with
  | nil => cases found
  | cons letter rest ih =>
    cases blank : isBlank letter with
    | true => exact ih (by simpa [skipBlanks, List.dropWhile_cons, blank] using found)
    | false =>
      simp only [skipBlanks, List.dropWhile_cons, blank] at found
      cases found
      exact blank

/-- The cursor at the first character of the next token: past blanks, comments and joined line
ends. -/
def start (cursor : Cursor) : Cursor :=
  match blank : skipBlanks cursor.rest with
  | '#' :: text => start ⟨text.dropWhile (· ≠ '\n'), cursor.line⟩
  | '\\' :: '\n' :: text => start ⟨text, cursor.line + 1⟩
  | '\\' :: '\r' :: '\n' :: text => start ⟨text, cursor.line + 1⟩
  | text => ⟨text, cursor.line⟩
termination_by cursor.rest.length
decreasing_by
  · have short := length_dropWhile_le isBlank cursor.rest
    have comment := length_dropWhile_le (· ≠ '\n') text
    simp only [skipBlanks] at blank
    simp only [blank, List.length_cons] at short
    simp only [gt_iff_lt]
    omega
  all_goals
    have short := length_dropWhile_le isBlank cursor.rest
    simp only [skipBlanks] at blank
    simp only [blank, List.length_cons] at short
    simp only [gt_iff_lt]
    omega

def readFront (text : List Char) : WordReading :=
  let reading := readWord (text.takeWhile (!endsWord ·))
  (reading.1, reading.2 ++ text.dropWhile (!endsWord ·))

/-- The token at the first character of a text, and the cursor after it. -/
def take (line : Nat) : List Char → Token × Cursor
  | [] => (.endOfText, ⟨[], line⟩)
  | '\n' :: text => (.endOfLine, ⟨text, line + 1⟩)
  | '"' :: text =>
    let quoted := readQuoted false text
    (.word (String.ofList quoted.text), ⟨quoted.rest, line + quoted.lines⟩)
  | '(' :: text => (.openBracket, ⟨text, line⟩)
  | ')' :: text => (.closeBracket, ⟨text, line⟩)
  | ',' :: text => (.comma, ⟨text, line⟩)
  | text =>
    let reading := readFront text
    (reading.1, ⟨reading.2, line⟩)

def next (cursor : Cursor) : Token × Cursor := take cursor.start.line cursor.start.rest

theorem length_start (cursor : Cursor) : cursor.start.rest.length ≤ cursor.rest.length := by
  fun_induction start cursor with
  | case1 cursor text blank ih =>
    have short := length_dropWhile_le isBlank cursor.rest
    have comment := length_dropWhile_le (· ≠ '\n') text
    simp only [skipBlanks] at blank
    simp only [blank, List.length_cons] at short ih
    omega
  | case2 cursor text blank ih | case3 cursor text blank ih =>
    have short := length_dropWhile_le isBlank cursor.rest
    simp only [skipBlanks] at blank
    simp only [blank, List.length_cons] at short ih
    omega
  | case4 cursor => exact length_dropWhile_le isBlank cursor.rest

theorem isBlank_start {cursor : Cursor} {head : Char} {tail : List Char}
    (found : cursor.start.rest = head :: tail) : isBlank head = false := by
  fun_induction start cursor with
  | case1 _ _ _ ih | case2 _ _ _ ih | case3 _ _ _ ih => exact ih found
  | case4 => exact isBlank_skipBlanks found

theorem endsWord_of_solid {head : Char} (solid : isBlank head = false) (feed : head ≠ '\n')
    (opening : head ≠ '(') (closing : head ≠ ')') (comma : head ≠ ',') : endsWord head = false := by
  simp only [isBlank, Bool.or_eq_false_iff, beq_eq_false_iff_ne] at solid
  simp only [endsWord, Bool.or_eq_false_iff, beq_eq_false_iff_ne]
  exact ⟨⟨⟨⟨⟨solid.2, solid.1.1.2⟩, feed⟩, opening⟩, closing⟩, comma⟩

theorem length_readFront {head : Char} {tail : List Char} (begins : endsWord head = false) :
    (readFront (head :: tail)).2.length < (head :: tail).length := by
  have nonempty : (head :: tail).takeWhile (!endsWord ·) ≠ [] := by simp [begins]
  have taken := length_readWord nonempty
  have whole := congrArg List.length
    (List.takeWhile_append_dropWhile (p := (!endsWord ·)) (l := head :: tail))
  simp only [readFront, List.length_append] at whole ⊢
  omega

theorem length_take {line : Nat} {text : List Char}
    (solid : ∀ head tail, text = head :: tail → isBlank head = false)
    (more : (take line text).1 ≠ .endOfText) :
    (take line text).2.rest.length < text.length := by
  fun_cases take line text with
  | case1 => exact absurd rfl more
  | case2 text | case4 text | case5 text | case6 text => exact Nat.lt_succ_self text.length
  | case3 text quoted => exact Nat.lt_succ_of_le (length_readQuoted false text)
  | case7 text some feed quote opening closing comma reading =>
    obtain ⟨head, tail, rfl⟩ := List.exists_cons_of_ne_nil some
    have begins : endsWord head = false :=
      endsWord_of_solid (solid head tail rfl) (fun same => feed tail (same ▸ rfl))
        (fun same => opening tail (same ▸ rfl)) (fun same => closing tail (same ▸ rfl))
        (fun same => comma tail (same ▸ rfl))
    exact length_readFront begins

/-- Every token but the end of the text takes at least one character. -/
theorem length_next (cursor : Cursor) (more : cursor.next.1 ≠ .endOfText) :
    cursor.next.2.rest.length < cursor.rest.length :=
  Nat.lt_of_lt_of_le (length_take (fun _ _ found => isBlank_start found) more) (length_start cursor)

/-- A token with the number of the line that the text after it begins on. -/
structure Lexeme where
  token : Token
  line : Nat
  deriving DecidableEq

/-- All tokens up to the end of the text, which is the last. -/
def lexemes (cursor : Cursor) : List Lexeme :=
  let lexeme : Lexeme := ⟨cursor.next.1, cursor.next.2.line⟩
  if _ended : cursor.next.1 = .endOfText then [lexeme]
  else lexeme :: lexemes cursor.next.2
termination_by cursor.rest.length
decreasing_by exact length_next cursor _ended

/-- The text before the next place where a marker stands, or all of it. -/
def extract (cursor : Cursor) (marker : String) : String × Cursor :=
  match splitFirst? marker.toList cursor.rest with
  | some (before, _) =>
    (String.ofList before, ⟨cursor.rest.drop before.length, cursor.line + lineBreaks before⟩)
  | none => (String.ofList cursor.rest, ⟨[], cursor.line + lineBreaks cursor.rest⟩)

/-- A cursor before a text that begins on a line. -/
def ofText (text : String) (line : Nat) : Cursor := ⟨text.toList, line⟩

end Cursor

end GpuScript
