import GpuScript.Proofs.Section.Lines

/-! What a token is read from. A cursor stands at a character of its text and on the line of that
character, wherever requests have moved it, and the next token takes a gap and then its own
spelling, so that nothing of the text is lost. -/
namespace GpuScript

namespace Cursor

/-- What may be passed over in front of a text: blanks, joined line ends, and a comment that reaches
up to the end of its line. -/
inductive Trivia : (gap behind : List Char) → Prop where
  | nothing (behind : List Char) : Trivia [] behind
  | blank {letter : Char} {gap behind : List Char} (blank : isBlank letter = true)
      (later : Trivia gap behind) : Trivia (letter :: gap) behind
  | join {gap behind : List Char} (later : Trivia gap behind) :
      Trivia ('\\' :: '\n' :: gap) behind
  | joinReturn {gap behind : List Char} (later : Trivia gap behind) :
      Trivia ('\\' :: '\r' :: '\n' :: gap) behind
  | comment {text behind : List Char} (inLine : '\n' ∉ text)
      (ends : behind = [] ∨ behind.head? = some '\n') : Trivia ('#' :: text) behind

theorem Trivia.blanks_append {blanks gap behind : List Char}
    (blank : ∀ letter ∈ blanks, isBlank letter = true) (later : Trivia gap behind) :
    Trivia (blanks ++ gap) behind := by
  induction blanks with
  | nil => exact later
  | cons letter blanks ih =>
    have rest := ih fun other member => blank other (by simp [member])
    exact .blank (blank letter (by simp)) rest

private theorem isBlank_of_mem_takeWhile (text : List Char) :
    ∀ letter ∈ text.takeWhile isBlank, isBlank letter = true :=
  List.all_eq_true.mp List.all_takeWhile

private theorem dropWhile_line (text : List Char) :
    text.dropWhile (· ≠ '\n') = [] ∨ (text.dropWhile (· ≠ '\n')).head? = some '\n' := by
  by_cases feed : '\n' ∈ text
  · obtain ⟨rest, found⟩ := dropWhile_feed feed
    right
    rw [found]
    rfl
  · left
    apply List.dropWhile_eq_nil_iff.mpr
    intro letter member
    simpa using fun same : letter = '\n' => feed (same ▸ member)

theorem start_lineEnd {text : List Char} (line : Nat)
    (ends : text = [] ∨ text.head? = some '\n') : start ⟨text, line⟩ = ⟨text, line⟩ := by
  cases text with
  | nil => simp [start, skipBlanks]
  | cons head tail =>
    have feed : head = '\n' := by simpa using ends
    subst head
    exact start_solid line (by decide) (by decide) (by decide)

private theorem exists_trivia (cursor : Cursor) :
    ∃ gap, cursor.rest = gap ++ cursor.start.rest ∧ Trivia gap cursor.start.rest := by
  have parts := skipBlanks_parts cursor.rest
  fun_induction start cursor with
  | case1 cursor text blank ih =>
    have ends := dropWhile_line text
    have inLine : '\n' ∉ text.takeWhile (· ≠ '\n') := by
      intro member
      simpa using List.mem_takeWhile_imp member
    rw [start_lineEnd _ ends]
    refine ⟨cursor.rest.takeWhile isBlank ++ '#' :: text.takeWhile (· ≠ '\n'), ?_, ?_⟩
    · rw [List.append_assoc, List.cons_append, List.takeWhile_append_dropWhile, ← blank]
      exact parts
    · exact (Trivia.comment inLine ends).blanks_append (isBlank_of_mem_takeWhile _)
  | case2 cursor text blank ih =>
    obtain ⟨gap, whole, trivia⟩ := ih (skipBlanks_parts text)
    refine ⟨cursor.rest.takeWhile isBlank ++ '\\' :: '\n' :: gap, ?_, ?_⟩
    · simp only [List.append_assoc, List.cons_append, ← whole, ← blank]
      exact parts
    · exact trivia.join.blanks_append (isBlank_of_mem_takeWhile _)
  | case3 cursor text blank ih =>
    obtain ⟨gap, whole, trivia⟩ := ih (skipBlanks_parts text)
    refine ⟨cursor.rest.takeWhile isBlank ++ '\\' :: '\r' :: '\n' :: gap, ?_, ?_⟩
    · simp only [List.append_assoc, List.cons_append, ← whole, ← blank]
      exact parts
    · exact trivia.joinReturn.blanks_append (isBlank_of_mem_takeWhile _)
  | case4 cursor comment join joinReturn =>
    refine ⟨cursor.rest.takeWhile isBlank, parts, ?_⟩
    have trivia := (Trivia.nothing (skipBlanks cursor.rest)).blanks_append
      (isBlank_of_mem_takeWhile cursor.rest)
    simpa using trivia

/-- The text that is passed over before a token is nothing but a gap. -/
theorem trivia_gap (cursor : Cursor) : Trivia cursor.gap cursor.start.rest := by
  obtain ⟨gap, whole, trivia⟩ := exists_trivia cursor
  have same : cursor.gap = gap :=
    List.append_cancel_right ((gap_append cursor).trans whole)
  rw [same]
  exact trivia

/-- What may be passed over is passed over, and of what stands behind it at most a front. -/
theorem Trivia.passed {gap behind : List Char} (trivia : Trivia gap behind) (line : Nat) :
    (start ⟨gap ++ behind, line⟩).rest <:+ behind := by
  induction trivia generalizing line with
  | nothing behind => exact start_suffix ⟨behind, line⟩
  | @blank letter gap behind blank later ih =>
    have same : skipBlanks (letter :: gap ++ behind) = skipBlanks (gap ++ behind) := by
      simp [skipBlanks, blank]
    rw [start_congr line same]
    exact ih line
  | @join gap behind later ih =>
    have stops : skipBlanks ('\\' :: '\n' :: gap ++ behind) = '\\' :: '\n' :: (gap ++ behind) := rfl
    rw [start_join line stops]
    exact ih (line + 1)
  | @joinReturn gap behind later ih =>
    have stops : skipBlanks ('\\' :: '\r' :: '\n' :: gap ++ behind) =
        '\\' :: '\r' :: '\n' :: (gap ++ behind) := rfl
    rw [start_joinReturn line stops]
    exact ih (line + 1)
  | @comment text behind inLine ends =>
    have stops : skipBlanks ('#' :: text ++ behind) = '#' :: (text ++ behind) := rfl
    have hidden : (text ++ behind).dropWhile (· ≠ '\n') = behind := by
      have kept : ∀ letter ∈ text, decide (letter ≠ '\n') = true := by
        intro letter member
        simpa using fun same : letter = '\n' => inLine (same ▸ member)
      rw [List.dropWhile_append_of_pos kept]
      rcases ends with rfl | ends
      · rfl
      · obtain ⟨rest, rfl⟩ := List.head?_eq_some_iff.mp ends
        rfl
    have reached := start_comment line stops
    rw [hidden, start_lineEnd line ends] at reached
    exact (congrArg Cursor.rest reached) ▸ List.suffix_refl behind

/-- The gap before a token is the longest that may be passed over. -/
theorem length_gap_le {cursor : Cursor} {gap behind : List Char}
    (whole : cursor.rest = gap ++ behind) (trivia : Trivia gap behind) :
    gap.length ≤ cursor.gap.length := by
  have reached := (trivia.passed cursor.line).length_le
  rw [← whole] at reached
  have parts := congrArg List.length (gap_append cursor)
  rw [whole, List.length_append, List.length_append] at parts
  change cursor.start.rest.length ≤ behind.length at reached
  omega

/-- The end of the text is told exactly where nothing but a gap is left. -/
theorem next_endOfText_iff (cursor : Cursor) :
    cursor.next.1 = .endOfText ↔ Trivia cursor.rest [] := by
  constructor
  · intro ended
    have trivia := trivia_gap cursor
    have whole := gap_append cursor
    rw [(next_endOfText ended).1] at trivia whole
    rw [← whole, List.append_nil]
    exact trivia
  · intro trivia
    have none : cursor.start.rest = [] := by
      simpa using trivia.passed cursor.line
    rw [next, none, take]

/-- The source of a quoted text between its quotes, and the text. -/
inductive Quotes : (body text : List Char) → Prop where
  | nothing : Quotes [] []
  | escaped {body text : List Char} (letter : Char) (later : Quotes body text) :
      Quotes ('\\' :: letter :: body) (unescape letter :: text)
  | plain {letter : Char} {body text : List Char} (slash : letter ≠ '\\') (quote : letter ≠ '"')
      (later : Quotes body text) : Quotes (letter :: body) (letter :: text)

/-- What ends a quoted text: a quote, or the end of the whole text, where a last backslash stands
for nothing. -/
inductive Unquotes : (ending behind : List Char) → Prop where
  | quote (behind : List Char) : Unquotes ['"'] behind
  | missing : Unquotes [] []
  | escaped : Unquotes ['\\'] []

/-- The source of a token with this text behind it: its spelling, which is one character or holds
none that a word ends before, or a quoted text from its opening quote on. -/
inductive Written : (token : Token) → (source behind : List Char) → Prop where
  | bare {token : Token} {source : List Char} (behind : List Char)
      (spelled : token.spelling = String.ofList source) (bare : source.head? ≠ some '"')
      (single : source.length ≤ 1 ∨ ∀ letter ∈ source, endsWord letter = false) :
      Written token source behind
  | quoted {body text ending behind : List Char} (quotes : Quotes body text)
      (unquotes : Unquotes ending behind) :
      Written (.word (String.ofList text)) ('"' :: (body ++ ending)) behind

private theorem spelling_readHex? {word : List Char} {reading : WordReading}
    (found : readHex? word = some reading) :
    reading.1.spelling.toList ++ reading.2 = word := by
  unfold readHex? at found
  split at found
  · rename_i text
    dsimp only at found
    split at found
    · cases found
    · cases found
      simp [Token.spelling, List.takeWhile_append_dropWhile]
  · cases found

private theorem spelling_integerToken (literal : List Char) :
    (integerToken literal).spelling = String.ofList literal := by
  unfold integerToken
  split <;> rfl

private theorem spelling_readNumber? {word : List Char} {reading : WordReading}
    (found : readNumber? word = some reading) :
    reading.1.spelling.toList ++ reading.2 = word := by
  unfold readNumber? at found
  dsimp only at found
  split at found
  · cases found
  · cases found
    have spelled (literal : List Char) (token : Token) (isDouble : Bool)
        (same : token.spelling = String.ofList literal) :
        (if isDouble then token else integerToken literal).spelling = String.ofList literal := by
      cases isDouble
      · exact spelling_integerToken literal
      · exact same
    dsimp only
    rw [spelled _ _ _ rfl, String.toList_ofList, List.take_append_drop]

theorem spelling_readWord (word : List Char) :
    (readWord word).1.spelling.toList ++ (readWord word).2 = word := by
  unfold readWord
  split
  · simp [Token.spelling]
  · cases hex : readHex? word with
    | some reading => simpa using spelling_readHex? hex
    | none =>
      cases number : readNumber? word with
      | some reading => simpa using spelling_readNumber? number
      | none => simp [Token.spelling]

theorem spelling_readFront (text : List Char) :
    (readFront text).1.spelling.toList ++ (readFront text).2 = text := by
  rw [readFront, ← List.append_assoc, spelling_readWord, List.takeWhile_append_dropWhile]

private theorem endsWord_of_mem_readFront {text : List Char} {letter : Char}
    (member : letter ∈ (readFront text).1.spelling.toList) : endsWord letter = false := by
  have inWord : letter ∈ text.takeWhile (!endsWord ·) := by
    rw [← spelling_readWord (text.takeWhile (!endsWord ·))]
    exact List.mem_append_left _ member
  simpa using List.mem_takeWhile_imp inWord

/-- Reading a quoted text, after a backslash or not, takes its source and what ends it. -/
theorem quotes_readQuoted (escaped : Bool) (text : List Char) :
    let quoted := readQuoted escaped text
    ∃ body ending, (if escaped then ['\\'] else []) ++ text = body ++ ending ++ quoted.rest ∧
      Quotes body quoted.text ∧ Unquotes ending quoted.rest := by
  fun_induction readQuoted escaped text with
  | case1 escaped =>
    cases escaped
    · exact ⟨[], [], rfl, .nothing, .missing⟩
    · exact ⟨[], ['\\'], rfl, .nothing, .escaped⟩
  | case2 letter rest ih =>
    obtain ⟨body, ending, whole, quotes, unquotes⟩ := ih
    refine ⟨'\\' :: letter :: body, ending, ?_, .escaped letter quotes, unquotes⟩
    simpa [Quoted.push] using whole
  | case3 rest ih => exact ih
  | case4 rest => exact ⟨[], ['"'], rfl, .nothing, .quote rest⟩
  | case5 letter rest slash quote ih =>
    obtain ⟨body, ending, whole, quotes, unquotes⟩ := ih
    refine ⟨letter :: body, ending, ?_, .plain slash quote quotes, unquotes⟩
    simpa [Quoted.push] using whole

private theorem exists_written (line : Nat) (text : List Char) :
    ∃ source, text = source ++ (take line text).2.rest ∧
      Written (take line text).1 source (take line text).2.rest := by
  fun_cases take line text with
  | case1 => exact ⟨[], rfl, .bare [] rfl (by simp) (.inl (by simp))⟩
  | case2 text => exact ⟨['\n'], rfl, .bare text rfl (by simp) (.inl le_rfl)⟩
  | case3 text quoted =>
    obtain ⟨body, ending, whole, quotes, unquotes⟩ := quotes_readQuoted false text
    refine ⟨'"' :: (body ++ ending), ?_, .quoted quotes unquotes⟩
    simpa using whole
  | case4 text => exact ⟨['('], rfl, .bare text rfl (by simp) (.inl le_rfl)⟩
  | case5 text => exact ⟨[')'], rfl, .bare text rfl (by simp) (.inl le_rfl)⟩
  | case6 text => exact ⟨[','], rfl, .bare text rfl (by simp) (.inl le_rfl)⟩
  | case7 text _ _ quote _ _ _ reading =>
    have whole := spelling_readFront text
    refine ⟨reading.1.spelling.toList, whole.symm, .bare _ (by simp) (fun opened => ?_)
      (.inr fun letter => endsWord_of_mem_readFront)⟩
    -- a word in front of which a quote stands would be a quoted text
    obtain ⟨rest, same⟩ := List.head?_eq_some_iff.mp opened
    have front : text = '"' :: (rest ++ reading.2) := by
      rw [← List.cons_append, ← same]
      exact whole.symm
    exact quote _ front

private theorem written_source (cursor : Cursor) :
    Written cursor.next.1 cursor.source cursor.next.2.rest := by
  obtain ⟨source, whole, written⟩ := exists_written cursor.start.line cursor.start.rest
  have same : cursor.source = source :=
    List.append_cancel_right ((source_append cursor).trans whole)
  rw [same]
  exact written

/-- The byte of its text that a cursor stands at. -/
def position (text : String) (cursor : Cursor) : String.Pos.Raw :=
  ⟨text.utf8ByteSize - (String.ofList cursor.rest).utf8ByteSize⟩

/-- A cursor stands between two characters of its text, on the line that the line breaks before it
count from the first. -/
structure Stands (text : String) (cursor : Cursor) : Prop where
  boundary : (cursor.position text).IsValid text
  counted : ∃ before, text = before ++ String.ofList cursor.rest ∧
    cursor.position text = before.rawEndPos ∧ cursor.line = 1 + lineBreaks before.toList

theorem stands_of_append {text : String} {cursor : Cursor} (before : String)
    (whole : text = before ++ String.ofList cursor.rest)
    (line : cursor.line = 1 + lineBreaks before.toList) : cursor.Stands text := by
  have reached : cursor.position text = before.rawEndPos := by
    rw [position, whole, String.utf8ByteSize_append]
    ext
    simp
  refine ⟨?_, before, whole, reached, line⟩
  exact String.Pos.Raw.isValid_iff_exists_append.mpr ⟨before, _, whole, reached⟩

/-- A cursor that has taken some of what another leaves unread stands in the text if it counted the
line breaks. -/
theorem Stands.taken {text : String} {cursor after : Cursor} (stands : cursor.Stands text)
    {front : List Char} (whole : cursor.rest = front ++ after.rest)
    (line : after.line = cursor.line + lineBreaks front) : after.Stands text := by
  obtain ⟨before, same, -, counted⟩ := stands.counted
  apply stands_of_append (before ++ String.ofList front)
  · rw [same, whole, String.ofList_append, String.append_assoc]
  · rw [line, counted, String.toList_append, String.toList_ofList, lineBreaks_append,
      Nat.add_assoc]

theorem gap_source_append (cursor : Cursor) :
    cursor.gap ++ (cursor.source ++ cursor.next.2.rest) = cursor.rest := by
  rw [source_append, gap_append]

theorem Stands.next {text : String} {cursor : Cursor} (stands : cursor.Stands text) :
    cursor.next.2.Stands text := by
  have whole := gap_source_append cursor
  have counted := line_next cursor
  rw [← List.append_assoc] at whole
  apply stands.taken whole.symm
  rw [← whole, lineBreaks_append] at counted
  omega

theorem extract_append (cursor : Cursor) (marker : String) :
    (cursor.extract marker).1.toList ++ (cursor.extract marker).2.rest = cursor.rest := by
  unfold extract
  split
  · rename_i before after found
    have parts := splitFirst?_append found
    rw [String.toList_ofList, ← parts, List.append_assoc, List.drop_left]
  · simp

/-- Where the marker stands anywhere, what is left unread begins with it. -/
theorem extract_stops (cursor : Cursor) {marker : String}
    (stands : marker.toList <:+: cursor.rest) :
    marker.toList <+: (cursor.extract marker).2.rest := by
  unfold extract
  split
  · rename_i before after found
    have parts := splitFirst?_append found
    dsimp only
    rw [← parts, List.append_assoc, List.drop_left]
    exact List.prefix_append _ _
  · rename_i missing
    exact absurd stands (splitFirst?_eq_none_iff.mp missing)

private theorem line_extract (cursor : Cursor) (marker : String) :
    (cursor.extract marker).2.line =
      cursor.line + lineBreaks (cursor.extract marker).1.toList := by
  unfold extract
  split <;> simp

theorem Stands.extract {text : String} {cursor : Cursor} (stands : cursor.Stands text)
    (marker : String) : (cursor.extract marker).2.Stands text :=
  stands.taken (extract_append cursor marker).symm (line_extract cursor marker)

inductive Request where
  | next
  | peek
  | extract (marker : String)

/-- The cursor after a request; looking at a token does not move it. -/
def Request.move (cursor : Cursor) : Request → Cursor
  | next => cursor.next.2
  | peek => cursor
  | extract marker => (cursor.extract marker).2

theorem Stands.move {text : String} {cursor : Cursor} (stands : cursor.Stands text)
    (request : Request) : (request.move cursor).Stands text := by
  cases request with
  | next => exact stands.next
  | peek => exact stands
  | extract marker => exact stands.extract marker

theorem Stands.moves {text : String} {cursor : Cursor} (stands : cursor.Stands text)
    (requests : List Request) : (requests.foldl Request.move cursor).Stands text := by
  induction requests generalizing cursor with
  | nil => exact stands
  | cons request requests ih => exact ih (stands.move request)

/-- Fewer bytes are left where a shorter end of the same text is. -/
theorem position_lt {text : String} {cursor after : Cursor} (stands : cursor.Stands text)
    (suffix : after.rest <:+ cursor.rest) (shorter : after.rest.length < cursor.rest.length) :
    cursor.position text < after.position text := by
  obtain ⟨front, whole⟩ := suffix
  obtain ⟨before, same, -, -⟩ := stands.counted
  have filled : front ≠ [] := by
    rintro rfl
    simp [← whole] at shorter
  have bytes : 0 < (String.ofList front).utf8ByteSize := by
    apply Nat.pos_of_ne_zero
    simpa using filled
  have sizes : text.utf8ByteSize = before.utf8ByteSize +
      ((String.ofList front).utf8ByteSize + (String.ofList after.rest).utf8ByteSize) := by
    rw [same, ← whole, String.ofList_append, String.utf8ByteSize_append,
      String.utf8ByteSize_append]
  have rest : (String.ofList cursor.rest).utf8ByteSize =
      (String.ofList front).utf8ByteSize + (String.ofList after.rest).utf8ByteSize := by
    rw [← whole, String.ofList_append, String.utf8ByteSize_append]
  rw [String.Pos.Raw.lt_iff]
  simp only [position]
  omega

/-- Wherever requests have moved it a cursor stands in its text. Every token but the end of the text
moves it on, past the longest gap and then the source of the token, and the end of the text is told
exactly where nothing but a gap is left, so that the gaps and sources of all tokens make up the
text. Taking the text before a marker loses nothing either, and stops at the marker if there is
one. -/
theorem scan_lossless (text : String) (requests : List Request) :
    let cursor := requests.foldl Request.move (ofText text 1)
    cursor.Stands text ∧
      (cursor.next.1 ≠ .endOfText → cursor.position text < cursor.next.2.position text) ∧
      (cursor.next.1 = .endOfText ↔ Trivia cursor.rest []) ∧
      cursor.rest = cursor.gap ++ (cursor.source ++ cursor.next.2.rest) ∧
      Trivia cursor.gap (cursor.source ++ cursor.next.2.rest) ∧
      (∀ gap behind, cursor.rest = gap ++ behind → Trivia gap behind →
        gap.length ≤ cursor.gap.length) ∧
      Written cursor.next.1 cursor.source cursor.next.2.rest ∧
      (cursor.spans.flatMap fun span => span.gap ++ span.source) = cursor.rest ∧
      ∀ marker,
        cursor.rest = (cursor.extract marker).1.toList ++ (cursor.extract marker).2.rest ∧
          (marker.toList <:+: cursor.rest →
            marker.toList <+: (cursor.extract marker).2.rest) := by
  intro cursor
  have fresh : (ofText text 1).Stands text :=
    stands_of_append "" (by simp [ofText]) (by simp [ofText, lineBreaks])
  have stands : cursor.Stands text := fresh.moves requests
  refine ⟨stands, ?_, next_endOfText_iff cursor, (gap_source_append cursor).symm, ?_, ?_,
    written_source cursor, spans_whole cursor, ?_⟩
  · intro more
    exact position_lt stands (next_suffix cursor) (length_next cursor more)
  · rw [source_append]
    exact trivia_gap cursor
  · intro gap behind
    exact length_gap_le
  · intro marker
    exact ⟨(extract_append cursor marker).symm, extract_stops cursor⟩

end Cursor

end GpuScript
