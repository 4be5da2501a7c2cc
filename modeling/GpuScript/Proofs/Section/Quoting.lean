import GpuScript.Proofs.Section.Sources

namespace GpuScript

namespace Cursor

/-- The source of a text between quotes: a backslash stands before each quote and backslash. -/
def escape (text : List Char) : List Char :=
  text.flatMap fun letter => if letter = '"' ∨ letter = '\\' then ['\\', letter] else [letter]

/-- A text with quotes around it. -/
def quote (text : String) : String := String.ofList ('"' :: escape text.toList ++ ['"'])

theorem escape_cons (letter : Char) (text : List Char) :
    escape (letter :: text) =
      if letter = '"' ∨ letter = '\\' then '\\' :: letter :: escape text
      else letter :: escape text := by
  simp only [escape, List.flatMap_cons]
  split <;> rfl

private theorem unescape_of_marked {letter : Char} (marked : letter = '"' ∨ letter = '\\') :
    unescape letter = letter := by
  rcases marked with rfl | rfl <;> rfl

private theorem quotes_escape (text : List Char) : Quotes (escape text) text := by
  induction text with
  | nil => exact .nothing
  | cons letter text ih =>
    rw [escape_cons]
    split
    · rename_i marked
      have quotes := Quotes.escaped letter ih
      rwa [unescape_of_marked marked] at quotes
    · rename_i plain
      obtain ⟨quote, slash⟩ := not_or.mp plain
      exact .plain slash quote ih

theorem lineBreaks_escape (text : List Char) : lineBreaks (escape text) = lineBreaks text := by
  induction text with
  | nil => rfl
  | cons letter text ih =>
    simp only [lineBreaks] at ih ⊢
    rw [escape_cons]
    split
    · simp [List.count_cons, ih]
    · simp [List.count_cons, ih]

/-- A source is read up to the quote that closes it, and its line breaks are counted. -/
theorem readQuoted_of_quotes {body text : List Char} (quotes : Quotes body text)
    (rest : List Char) :
    readQuoted false (body ++ '"' :: rest) = ⟨text, rest, lineBreaks body⟩ := by
  induction quotes with
  | nothing => rfl
  | escaped letter later ih =>
    simp [readQuoted, ih, Quoted.push, lineBreaks, List.count_cons]
  | plain slash quote later ih =>
    simp [readQuoted, ih, Quoted.push, lineBreaks, List.count_cons]

/-- A text between quotes is read back as it is, up to where the text behind the quotes begins, on
the line that its own line breaks count to. -/
theorem next_quote (text rest : String) (line : Nat) :
    (ofText (quote text ++ rest) line).next =
      (.word text, ofText rest (line + lineBreaks text.toList)) := by
  have letters : (quote text ++ rest).toList =
      '"' :: (escape text.toList ++ '"' :: rest.toList) := by
    simp [quote]
  have opened : start ⟨'"' :: (escape text.toList ++ '"' :: rest.toList), line⟩ =
      ⟨'"' :: (escape text.toList ++ '"' :: rest.toList), line⟩ :=
    start_solid line (by decide) (by decide) (by decide)
  have read := readQuoted_of_quotes (quotes_escape text.toList) rest.toList
  rw [ofText, letters, next, opened]
  simp only [take, read, String.ofList_toList, lineBreaks_escape, ofText]

end Cursor

end GpuScript
