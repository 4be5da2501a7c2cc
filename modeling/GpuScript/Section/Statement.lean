import GpuScript.Section.Cursor

namespace GpuScript

/-- A statement's first token, the tokens after it, and the one that closes it. -/
structure Statement where
  first : Cursor.Lexeme
  others : List Cursor.Lexeme
  closing : Cursor.Lexeme
  deriving DecidableEq

namespace Statement

/-- The statements of a row of tokens; lines without a token are none. -/
def ofLexemes : List Cursor.Lexeme → List Statement
  | [] => []
  | first :: rest =>
    if first.token.isEnd then ofLexemes rest
    else
      let others := rest.takeWhile (!·.token.isEnd)
      match _after : rest.dropWhile (!·.token.isEnd) with
      | closing :: later => ⟨first, others, closing⟩ :: ofLexemes later
      | [] => [⟨first, others, ⟨.endOfText, first.line⟩⟩]
termination_by lexemes => lexemes.length
decreasing_by
  · simp
  · have bound := (List.dropWhile_sublist (fun lexeme : Cursor.Lexeme => !lexeme.token.isEnd)
      (l := rest)).length_le
    rw [_after] at bound
    simp only [List.length_cons] at bound ⊢
    omega

/-- The statements of a text that begins on a line. -/
def ofText (text : String) (line : Nat) : List Statement :=
  ofLexemes (Cursor.ofText text line).lexemes

end Statement

/-- The unread tokens of a statement, the one that closes it, and the line after the last one
read. -/
structure Words where
  rest : List Cursor.Lexeme
  closing : Cursor.Lexeme
  line : Nat

/-- Reading tokens of a statement, which may be refused. -/
abbrev Reader (Result : Type) : Type := StateT Words (Except Fault) Result

/-- Refuses a statement at a token. -/
def complain {Result : Type} (rule : String) (token : Token) : Except Fault Result :=
  .error (.complaint ⟨rule, some token.spelling⟩)

namespace Reader

def refuse {Result : Type} (rule : String) : Reader Result :=
  throw (.complaint ⟨rule, none⟩)

/-- Refuses a statement at a token. -/
def refuseAt {Result : Type} (rule : String) (token : Token) : Reader Result :=
  throw (.complaint ⟨rule, some token.spelling⟩)

def peek : Reader Token := do
  let words ← get
  return match words.rest with
    | [] => words.closing.token
    | lexeme :: _ => lexeme.token

/-- Takes the next token; past the others this is the closing one. -/
def next : Reader Token := do
  let words ← get
  match words.rest with
  | [] =>
    set { words with line := words.closing.line }
    return words.closing.token
  | lexeme :: rest =>
    set { words with rest, line := lexeme.line }
    return lexeme.token

/-- The line after the last token taken. -/
def line : Reader Nat := do return (← get).line

/-- Takes all tokens before the closing one. -/
def takeRest : Reader (List Token) := do
  let words ← get
  set { words with rest := [], line := words.closing.line }
  return words.rest.map (·.token)

/-- Takes the words at the front. -/
def takeWords : Reader (List String) := do
  let words ← get
  set { words with rest := words.rest.dropWhile (·.token.isWord) }
  return (words.rest.takeWhile (·.token.isWord)).map (·.token.text)

/-- Nothing may stand before the end of the statement. -/
def expectEnd (rule : String) : Reader Unit := do
  let token ← next
  if !token.isEnd then refuseAt rule token

def asDouble (token : Token) : Reader Token :=
  match token.asDouble with
  | .ok double => pure double
  | .error fault => throw fault

def single : Reader Single := do
  return (← asDouble (← next)).toSingle

def integer (rule : String) : Reader Token := do
  let token ← next
  if !token.isInteger then refuseAt rule token
  return token

end Reader

end GpuScript
