import GpuScript.Proofs.Section.Recordings
import GpuScript.Section.Run

/-! On which line a command says it stands. In a text whose line breaks all end lines it is the line
that its statement begins on, but for a clear of everything that a line break follows: such a clear
says the line after it. -/
namespace GpuScript

namespace Cursor

/-- The text that is passed over before the next token. -/
def gap (cursor : Cursor) : List Char :=
  cursor.rest.take (cursor.rest.length - cursor.start.rest.length)

/-- The text that the next token is read from. -/
def source (cursor : Cursor) : List Char :=
  cursor.start.rest.take (cursor.start.rest.length - cursor.next.2.rest.length)

theorem gap_append (cursor : Cursor) : cursor.gap ++ cursor.start.rest = cursor.rest :=
  List.suffix_iff_eq_append.mp (start_suffix cursor)

theorem source_append (cursor : Cursor) : cursor.source ++ cursor.next.2.rest = cursor.start.rest :=
  List.suffix_iff_eq_append.mp (take_suffix _ _)

/-- A token between the texts it is read from. -/
structure Span where
  gap : List Char
  source : List Char
  token : Token

def spans (cursor : Cursor) : List Span :=
  let span : Span := ⟨cursor.gap, cursor.source, cursor.next.1⟩
  if _ended : cursor.next.1 = .endOfText then [span]
  else span :: spans cursor.next.2
termination_by cursor.rest.length
decreasing_by exact length_next cursor _ended

theorem spans_end {cursor : Cursor} (ended : cursor.next.1 = .endOfText) :
    cursor.spans = [⟨cursor.gap, cursor.source, .endOfText⟩] := by
  rw [spans, dif_pos ended, ended]

theorem spans_more {cursor : Cursor} (more : cursor.next.1 ≠ .endOfText) :
    cursor.spans = ⟨cursor.gap, cursor.source, cursor.next.1⟩ :: cursor.next.2.spans := by
  rw [spans, dif_neg more]

/-- Nothing of a text is left out. -/
theorem spans_whole (cursor : Cursor) :
    (cursor.spans.flatMap fun span => span.gap ++ span.source) = cursor.rest := by
  induction cursor using token_induction with
  | stop cursor ended =>
    obtain ⟨none, -⟩ := next_endOfText ended
    have source : cursor.source = [] := by rw [Cursor.source, none, List.take_nil]
    have whole := gap_append cursor
    rw [none, List.append_nil] at whole
    rw [spans_end ended, List.flatMap_singleton, source, List.append_nil, whole]
  | more cursor more ih =>
    rw [spans_more more, List.flatMap_cons, ih, List.append_assoc, source_append, gap_append]

/-- Line breaks end lines: none is joined before a token, and none is quoted in one. -/
def Unbroken (cursor : Cursor) : Prop :=
  ∀ span ∈ cursor.spans, '\n' ∉ span.gap ∧ (span.token = .endOfLine ∨ '\n' ∉ span.source)

instance (cursor : Cursor) : Decidable cursor.Unbroken :=
  inferInstanceAs (Decidable (∀ span ∈ cursor.spans, _ ∧ _))

/-- The lines that the end of a line moves on. -/
def lineStep (token : Token) : Nat := if token = .endOfLine then 1 else 0

theorem lineStep_of_solid {token : Token} (solid : token.isEnd = false) : lineStep token = 0 := by
  cases token <;> first | rfl | cases solid

private theorem unbroken_next {cursor : Cursor} (more : cursor.next.1 ≠ .endOfText)
    (unbroken : cursor.Unbroken) : cursor.next.2.Unbroken := by
  intro span member
  exact unbroken span (spans_more more ▸ List.mem_cons_of_mem _ member)

private theorem lineStep_next {cursor : Cursor} (unbroken : cursor.Unbroken) :
    cursor.next.2.line = cursor.line + lineStep cursor.next.1 := by
  have first : ⟨cursor.gap, cursor.source, cursor.next.1⟩ ∈ cursor.spans := by
    by_cases ended : cursor.next.1 = .endOfText
    · rw [spans_end ended, ended]
      exact List.mem_singleton_self _
    · rw [spans_more ended]
      exact List.mem_cons_self
  obtain ⟨joined, quoted⟩ := unbroken _ first
  have counted := line_next cursor
  have before := congrArg lineBreaks (gap_append cursor)
  have inside := congrArg lineBreaks (source_append cursor)
  rw [lineBreaks_append, lineBreaks_eq_zero joined] at before
  rw [lineBreaks_append] at inside
  unfold lineStep
  split
  · rename_i ended
    have taken := take_endOfLine (Prod.ext ended rfl : cursor.next = (.endOfLine, cursor.next.2))
    have begins := congrArg lineBreaks taken.1
    simp only [lineBreaks, List.count_cons_self] at begins before inside counted
    omega
  · rename_i more
    rw [lineBreaks_eq_zero (quoted.resolve_left more)] at inside
    omega

/-- The line of each token is that of the one before it, or the next one where a line ends. -/
def Counted : Nat → List Lexeme → Prop
  | _, [] => True
  | line, lexeme :: rest =>
    lexeme.line = line + lineStep lexeme.token ∧ Counted lexeme.line rest

theorem counted_lexemes {cursor : Cursor} (unbroken : cursor.Unbroken) :
    Counted cursor.line cursor.lexemes := by
  induction cursor using token_induction with
  | stop cursor ended =>
    have step := lineStep_next unbroken
    rw [ended] at step
    rw [lexemes_end ended]
    exact ⟨step, trivial⟩
  | more cursor more ih =>
    rw [lexemes_more more]
    exact ⟨lineStep_next unbroken, ih (unbroken_next more unbroken)⟩

theorem Counted.of_append {line : Nat} {front back : List Lexeme}
    (counted : Counted line (front ++ back)) :
    Counted (line + front.countP (·.token = .endOfLine)) back := by
  induction front generalizing line with
  | nil => exact counted
  | cons lexeme front ih =>
    obtain ⟨step, counted⟩ := counted
    have later := ih counted
    rw [step] at later
    rw [List.countP_cons]
    unfold lineStep at later
    simpa [Nat.add_assoc, Nat.add_comm, Nat.add_left_comm] using later

theorem Counted.level {line : Nat} {front back : List Lexeme}
    (counted : Counted line (front ++ back))
    (inside : ∀ lexeme ∈ front, lexeme.token.isEnd = false) :
    (∀ lexeme ∈ front, lexeme.line = line) ∧ Counted line back := by
  induction front with
  | nil => exact ⟨fun _ member => (by cases member), counted⟩
  | cons lexeme front ih =>
    obtain ⟨step, counted⟩ := counted
    rw [lineStep_of_solid (inside lexeme List.mem_cons_self), Nat.add_zero] at step
    rw [step] at counted
    obtain ⟨level, rest⟩ :=
      ih counted fun other member => inside other (List.mem_cons_of_mem _ member)
    exact ⟨List.forall_mem_cons.mpr ⟨step, level⟩, rest⟩

private theorem countP_body_le (cursor : Cursor) :
    cursor.body.countP (·.token = .endOfLine) ≤ lineBreaks cursor.rest := by
  induction cursor using token_induction with
  | stop cursor ended =>
    rw [body_end ended]
    exact Nat.zero_le _
  | more cursor more ih =>
    have before := (start_suffix cursor).sublist.count_le '\n'
    have inside := (take_suffix cursor.start.line cursor.start.rest).sublist.count_le '\n'
    rw [body_more more, List.countP_cons]
    split
    · rename_i ended
      have taken := take_endOfLine (Prod.ext (of_decide_eq_true ended) rfl :
        cursor.next = (.endOfLine, cursor.next.2))
      have begins := congrArg (List.count '\n') taken.1
      rw [List.count_cons_self] at begins
      simp only [lineBreaks] at ih ⊢
      omega
    · exact ih.trans (inside.trans before)

private theorem line_start_of_plain {cursor : Cursor} (plain : '\\' ∉ cursor.rest) :
    cursor.start.line = cursor.line := by
  fun_induction start cursor with
  | case1 cursor text blank ih =>
    apply ih
    intro member
    have behind : '\\' ∈ skipBlanks cursor.rest := by
      rw [blank]
      exact List.mem_cons_of_mem _ ((List.dropWhile_suffix _).subset member)
    exact plain ((List.dropWhile_suffix isBlank).subset behind)
  | case2 cursor text blank | case3 cursor text blank =>
    have first : '\\' ∈ skipBlanks cursor.rest := blank ▸ List.mem_cons_self
    exact absurd ((List.dropWhile_suffix isBlank).subset first) plain
  | case4 => rfl

private theorem line_take_of_plain {line : Nat} {text : List Char} (plain : '"' ∉ text) :
    (take line text).2.line = line + lineStep (take line text).1 := by
  fun_cases take line text with
  | case1 | case2 | case4 | case5 | case6 => rfl
  | case3 => exact absurd List.mem_cons_self plain
  | case7 text => exact congrArg (line + ·) (lineStep_of_solid (isEnd_readFront text)).symm

/-- Without a backslash and a quote a token is not broken. -/
theorem unbroken_token_of_plain {cursor : Cursor} (noJoin : '\\' ∉ cursor.rest)
    (noQuote : '"' ∉ cursor.rest) :
    '\n' ∉ cursor.gap ∧ (cursor.next.1 = .endOfLine ∨ '\n' ∉ cursor.source) := by
  have before := congrArg lineBreaks (gap_append cursor)
  have inside := congrArg lineBreaks (source_append cursor)
  rw [lineBreaks_append] at before inside
  have started := line_start cursor
  rw [line_start_of_plain noJoin] at started
  refine ⟨List.count_eq_zero.mp (show lineBreaks cursor.gap = 0 by omega), ?_⟩
  by_cases ended : cursor.next.1 = .endOfLine
  · exact .inl ended
  · have read : cursor.next.2.line + lineBreaks cursor.next.2.rest =
        cursor.start.line + lineBreaks cursor.start.rest := line_take _ _
    have kept : cursor.next.2.line = cursor.start.line + lineStep cursor.next.1 :=
      line_take_of_plain fun member => noQuote ((start_suffix cursor).subset member)
    rw [lineStep, if_neg ended] at kept
    exact .inr (List.count_eq_zero.mp (show lineBreaks cursor.source = 0 by omega))

/-- A text without backslashes and quotes has no line breaks but those that end its lines. -/
theorem unbroken_of_plain {cursor : Cursor} (noJoin : '\\' ∉ cursor.rest)
    (noQuote : '"' ∉ cursor.rest) : cursor.Unbroken := by
  intro span member
  have first := unbroken_token_of_plain noJoin noQuote
  induction cursor using token_induction with
  | stop cursor ended =>
    rw [spans_end ended, List.mem_singleton] at member
    subst span
    exact ended ▸ first
  | more cursor more ih =>
    rw [spans_more more] at member
    rcases List.mem_cons.mp member with rfl | later
    · exact first
    · have noJoinLater := fun member => noJoin ((next_suffix cursor).subset member)
      have noQuoteLater := fun member => noQuote ((next_suffix cursor).subset member)
      exact ih noJoinLater noQuoteLater later (unbroken_token_of_plain noJoinLater noQuoteLater)

end Cursor

namespace Statement

open Cursor (Counted Lexeme lineStep)

/-- The tokens of a statement stand on one line, and the closing one ends it. -/
theorem level_of_counted {lexemes : List Lexeme} {line : Nat} (counted : Counted line lexemes)
    {statement : Statement} (member : statement ∈ ofLexemes lexemes) :
    (Session.wordsOf statement).Level ∧
      statement.closing.line = statement.first.line + lineStep statement.closing.token := by
  induction lexemes using lexemes_induction generalizing line with
  | nil =>
    rw [ofLexemes] at member
    cases member
  | blank first rest ended ih =>
    rw [ofLexemes_end ended] at member
    exact ih counted.2 member
  | closed first others closing later solid inside ended ih =>
    rw [ofLexemes_closed solid inside ended] at member
    obtain ⟨level, rest⟩ := counted.2.level inside
    rcases List.mem_cons.mp member with rfl | member
    · exact ⟨level, rest.1⟩
    · exact ih rest.2 member
  | unclosed first others solid inside =>
    rw [ofLexemes_unclosed solid inside, List.mem_singleton] at member
    subst statement
    have rest := counted.2
    rw [← List.append_nil others] at rest
    exact ⟨(rest.level inside).1, rfl⟩

/-- A clear of everything that the end of a line follows. -/
def IsBareClear (statement : Statement) : Prop :=
  statement.first.token = .word "clear" ∧ statement.others = [] ∧
    statement.closing.token = .endOfLine

instance (statement : Statement) : Decidable statement.IsBareClear :=
  inferInstanceAs (Decidable (_ ∧ _ ∧ _))

private theorem eq_word_of_text {token : Token} {text : String} (named : token.text = text)
    (filled : text ≠ "") : token = .word text := by
  have isWord := Token.isWord_of_text (named ▸ filled)
  cases token with
  | word other => exact congrArg Token.word named
  | _ => cases isWord

/-- Where its tokens stand on one line a statement takes that line, but a bare clear takes the next
one. -/
theorem lineOf_eq {statement : Statement} (level : (Session.wordsOf statement).Level)
    (closed : statement.closing.line = statement.first.line + lineStep statement.closing.token) :
    Session.lineOf statement = statement.first.line + if statement.IsBareClear then 1 else 0 := by
  obtain ⟨⟨token, line⟩, others, closing⟩ := statement
  by_cases named : token = .word "clear"
  · subst token
    change (Session.wordsOf _).tail.line = _
    cases others with
    | nil =>
      refine closed.trans (congrArg (line + ·) ?_)
      simp [lineStep, IsBareClear]
    | cons lexeme others =>
      have bare : ¬IsBareClear ⟨⟨.word "clear", line⟩, lexeme :: others, closing⟩ :=
        fun clear => by cases clear.2.1
      rw [if_neg bare]
      exact level lexeme List.mem_cons_self
  · have other : token.text ≠ "clear" := fun text => named (eq_word_of_text text (by decide))
    rw [if_neg fun bare => named bare.1]
    exact if_neg other

/-- In an unbroken text the line of a statement counts the line breaks before it. -/
theorem exists_cut_line {text : String} {line : Nat} (unbroken : (Cursor.ofText text line).Unbroken)
    {statement : Statement} (member : statement ∈ ofText text line) :
    ∃ earlier later before source after,
      Cut text line earlier statement later before source after ∧
      statement.first.line = line + Cursor.lineBreaks before.toList := by
  obtain ⟨earlier, later, parted⟩ := List.append_of_mem member
  obtain ⟨back, before, source, after, cut, solid, tokens⟩ := exists_cut_tokens parted
  refine ⟨earlier, later, before, source, after, cut, ?_⟩
  have counted := Cursor.counted_lexemes unbroken
  rw [tokens] at counted
  have reached := counted.of_append.1
  have ends : _ ≤ Cursor.lineBreaks before.toList :=
    Cursor.countP_body_le (Cursor.ofText before line)
  have breaks := cut.line_first
  rw [String.toList_append, Cursor.lineBreaks_append] at breaks
  rw [Cursor.lineStep_of_solid solid] at reached
  change statement.first.line = line + _ + 0 at reached
  omega

end Statement

namespace Script

/-- A section is read to its end and each command is recorded on the line that its statement begins
on, but a bare clear on the line after it. -/
theorem readSection_lines {script : Script} {id : Id Pipeline} {line : Nat} {text : String}
    (unbroken : (Cursor.ofText text line).Unbroken)
    (done : (script.readSection id line text).1 = .ok ⟨⟩) :
    (script.readSection id line text).2.commands =
        (script.recordings id line text).map (·.command) ∧
      ∀ recording ∈ script.recordings id line text,
        ∃ earlier later before source after,
          Statement.Cut text line earlier recording.statement later before source after ∧
          recording.command.line = line + Cursor.lineBreaks before.toList +
            if recording.statement.IsBareClear then 1 else 0 := by
  refine ⟨readSection_commands done, fun recording member => ?_⟩
  obtain ⟨present, stands⟩ := readSection_stand done member
  obtain ⟨earlier, later, before, source, after, cut, first⟩ :=
    Statement.exists_cut_line unbroken present
  refine ⟨earlier, later, before, source, after, cut, ?_⟩
  obtain ⟨level, closed⟩ :=
    Statement.level_of_counted (Cursor.counted_lexemes unbroken) present
  rw [stands level, Statement.lineOf_eq level closed, first]

/-- The clear on the second line says the third. -/
theorem readSection_lines_clears :
    let script := (SectionTarget.graphics 8 8).script
    (Cursor.ofText "clear depth 1.0\nclear\n" 1).Unbroken ∧
      (script.readSection ⟨0⟩ 1 "clear depth 1.0\nclear\n").1 = .ok ⟨⟩ ∧
      (script.readSection ⟨0⟩ 1 "clear depth 1.0\nclear\n").2.commands.map (·.line) = [1, 3] ∧
      ∀ recording ∈ script.recordings ⟨0⟩ 1 "clear depth 1.0\nclear\n",
        ∃ earlier later before source after,
          Statement.Cut "clear depth 1.0\nclear\n" 1 earlier recording.statement later
            before source after ∧
          recording.command.line = 1 + Cursor.lineBreaks before.toList +
            if recording.statement.IsBareClear then 1 else 0 := by
  have unbroken : (Cursor.ofText "clear depth 1.0\nclear\n" 1).Unbroken := by decide +kernel
  have done : ((SectionTarget.graphics 8 8).script.readSection ⟨0⟩ 1
      "clear depth 1.0\nclear\n").1 = .ok ⟨⟩ := by decide +kernel
  exact ⟨unbroken, done, by decide +kernel, (readSection_lines unbroken done).2⟩

/-- A clear on the first line says that it stands on the second. -/
theorem readSection_lines_bare_clear :
    ¬∀ (script : Script) (id : Id Pipeline) (line : Nat) (text : String),
      (Cursor.ofText text line).Unbroken → (script.readSection id line text).1 = .ok ⟨⟩ →
      ∀ recording ∈ script.recordings id line text,
        ∃ earlier later before source after,
          Statement.Cut text line earlier recording.statement later before source after ∧
          recording.command.line = line + Cursor.lineBreaks before.toList := by
  intro stand
  have told := stand (SectionTarget.graphics 8 8).script ⟨0⟩ 1 "clear\n" (by decide +kernel)
    (by decide +kernel)
  have lines : ((SectionTarget.graphics 8 8).script.recordings ⟨0⟩ 1 "clear\n").map
      (fun recording => (recording.statement.first.line, recording.command.line)) =
        [(1, 2)] := by decide +kernel
  obtain ⟨recording, member, same⟩ := List.mem_map.mp (lines ▸ List.mem_singleton_self (1, 2))
  obtain ⟨begins, recorded⟩ := Prod.mk.inj same
  obtain ⟨earlier, later, before, source, after, cut, line⟩ := told recording member
  have first := cut.line_first
  rw [String.toList_append, Cursor.lineBreaks_append] at first
  omega

end Script

end GpuScript
