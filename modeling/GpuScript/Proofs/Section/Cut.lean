import GpuScript.Proofs.Section.Locality
import GpuScript.Section.Statement
import Mathlib.Data.List.DropRight

/-! Cutting a text at a line end or before a token. The tokens of two texts one after the other are
those of both when the first one is closed by a line end with no comment after it, and the text
before a statement has exactly the statements that stand before it. -/
namespace GpuScript

namespace Cursor

def body (cursor : Cursor) : List Lexeme := cursor.lexemes.dropLast

theorem lexemes_end {cursor : Cursor} (ended : cursor.next.1 = .endOfText) :
    cursor.lexemes = [⟨.endOfText, cursor.next.2.line⟩] := by
  rw [lexemes, dif_pos ended, ended]

theorem lexemes_more {cursor : Cursor} (more : cursor.next.1 ≠ .endOfText) :
    cursor.lexemes = ⟨cursor.next.1, cursor.next.2.line⟩ :: cursor.next.2.lexemes := by
  rw [lexemes, dif_neg more]

theorem lexemes_congr {left right : Cursor} (same : left.next = right.next) :
    left.lexemes = right.lexemes := by
  rw [lexemes, same]
  exact (lexemes.eq_1 right).symm

theorem lexemes_ne_nil (cursor : Cursor) : cursor.lexemes ≠ [] := by
  rw [lexemes]
  split <;> simp

theorem body_end {cursor : Cursor} (ended : cursor.next.1 = .endOfText) : cursor.body = [] := by
  rw [body, lexemes_end ended]
  rfl

theorem body_more {cursor : Cursor} (more : cursor.next.1 ≠ .endOfText) :
    cursor.body = ⟨cursor.next.1, cursor.next.2.line⟩ :: cursor.next.2.body := by
  rw [body, body, lexemes_more more, List.dropLast_cons_of_ne_nil (lexemes_ne_nil _)]

/-- What holds at the end of a text and passes from one token to the one before it holds before
any text. -/
theorem token_induction {motive : Cursor → Prop}
    (stop : ∀ cursor : Cursor, cursor.next.1 = .endOfText → motive cursor)
    (more : ∀ cursor : Cursor, cursor.next.1 ≠ .endOfText → motive cursor.next.2 → motive cursor)
    (cursor : Cursor) : motive cursor := by
  fun_induction lexemes cursor with
  | case1 cursor lexeme ended => exact stop cursor ended
  | case2 cursor lexeme ended ih => exact more cursor ended ih

theorem next_suffix (cursor : Cursor) : cursor.next.2.rest <:+ cursor.rest :=
  (take_suffix _ _).trans (start_suffix cursor)

theorem next_endOfText {cursor : Cursor} (ended : cursor.next.1 = .endOfText) :
    cursor.start.rest = [] ∧ cursor.next.2 = ⟨[], cursor.line + lineBreaks cursor.rest⟩ := by
  have taken := take_endOfText (Prod.ext ended rfl : cursor.next = (.endOfText, cursor.next.2))
  have counted := line_start cursor
  rw [taken.1] at counted
  rw [taken.2, ← counted]
  exact ⟨taken.1, rfl⟩

private theorem lexemes_eq_body (cursor : Cursor) :
    cursor.lexemes = cursor.body ++ [⟨.endOfText, cursor.line + lineBreaks cursor.rest⟩] := by
  induction cursor using token_induction with
  | stop cursor ended =>
    rw [lexemes_end ended, body_end ended, (next_endOfText ended).2]
    rfl
  | more cursor more ih =>
    rw [lexemes_more more, body_more more, ih, line_next cursor]
    rfl

theorem feed_mem_of_endOfLine {cursor : Cursor} {lexeme : Lexeme} (member : lexeme ∈ cursor.body)
    (ended : lexeme.token = .endOfLine) : '\n' ∈ cursor.rest := by
  induction cursor using token_induction with
  | stop cursor stop =>
    rw [body_end stop] at member
    cases member
  | more cursor more ih =>
    rw [body_more more] at member
    rcases List.mem_cons.mp member with rfl | later
    · have taken := take_endOfLine
        (Prod.ext ended rfl : cursor.next = (.endOfLine, cursor.next.2))
      exact (start_suffix cursor).subset (taken.1 ▸ List.mem_cons_self)
    · exact (next_suffix cursor).subset (ih later)

def append (cursor : Cursor) (back : List Char) : Cursor := ⟨cursor.rest ++ back, cursor.line⟩

/-- A row of tokens is empty or closed by the end of a line. -/
def LineClosed (lexemes : List Lexeme) : Prop :=
  ∀ last ∈ lexemes.getLast?, last.token = .endOfLine

instance (lexemes : List Lexeme) : Decidable (LineClosed lexemes) :=
  inferInstanceAs (Decidable (∀ last ∈ lexemes.getLast?, last.token = .endOfLine))

/-- A comment sign stands after the last line break. -/
def CommentOpen (text : List Char) : Prop := '#' ∈ text.reverse.takeWhile (· ≠ '\n')

instance (text : List Char) : Decidable (CommentOpen text) :=
  inferInstanceAs (Decidable (_ ∈ _))

theorem CommentOpen.prepend {text : List Char} (isOpen : CommentOpen text) (front : List Char) :
    CommentOpen (front ++ text) := by
  rw [CommentOpen, List.reverse_append, List.takeWhile_append]
  split
  · rename_i whole
    have prefixed := List.takeWhile_prefix (l := text.reverse) (· ≠ '\n')
    exact List.mem_append_left _ (prefixed.subset isOpen)
  · exact isOpen

theorem commentOpen_cons {text : List Char} (none : '\n' ∉ text) : CommentOpen ('#' :: text) := by
  have kept : ∀ letter ∈ text.reverse, decide (letter ≠ '\n') = true := by
    intro letter member
    have present := List.mem_reverse.mp member
    simpa using fun same : letter = '\n' => none (same ▸ present)
  rw [CommentOpen, List.reverse_cons, List.takeWhile_append_of_pos kept]
  simp

theorem start_solid {head : Char} {tail : List Char} (line : Nat) (solid : isBlank head = false)
    (comment : head ≠ '#') (join : head ≠ '\\') :
    start ⟨head :: tail, line⟩ = ⟨head :: tail, line⟩ := by
  have kept : skipBlanks (head :: tail) = head :: tail := by simp [skipBlanks, solid]
  rw [start_token line, kept]
  all_goals
    intro text same
    rw [kept] at same
    injection same with first rest
    contradiction

theorem start_congr {left right : List Char} (line : Nat)
    (same : skipBlanks left = skipBlanks right) :
    start ⟨left, line⟩ = start ⟨right, line⟩ := by
  rw [start, same]
  exact (start.eq_1 ⟨right, line⟩).symm

theorem dropWhile_feed {text : List Char} (feed : '\n' ∈ text) :
    ∃ rest, text.dropWhile (· ≠ '\n') = '\n' :: rest := by
  induction text with
  | nil => cases feed
  | cons letter text ih =>
    by_cases same : letter = '\n'
    · exact ⟨text, by simp [same]⟩
    · obtain ⟨rest, found⟩ := ih ((List.mem_cons.mp feed).resolve_left (Ne.symm same))
      exact ⟨rest, by simpa [same] using found⟩

theorem skipBlanks_parts (text : List Char) :
    text = text.takeWhile isBlank ++ skipBlanks text :=
  List.takeWhile_append_dropWhile.symm

theorem lineBreaks_skipBlanks (text : List Char) : lineBreaks (skipBlanks text) = lineBreaks text :=
  lineBreaks_dropWhile (by decide) text

theorem commentOpen_of_skipBlanks {text : List Char} (isOpen : CommentOpen (skipBlanks text)) :
    CommentOpen text := by
  rw [skipBlanks_parts text]
  exact isOpen.prepend _

/-- The lines of a text without tokens are passed over in front of another. -/
theorem start_append {front : List Char} {line : Nat} (empty : (start ⟨front, line⟩).rest = [])
    (closed : ¬CommentOpen front) (back : List Char) :
    start ⟨front ++ back, line⟩ = start ⟨back, line + lineBreaks front⟩ := by
  generalize whole : (⟨front, line⟩ : Cursor) = cursor at empty
  fun_induction start cursor generalizing front line with
  | case1 cursor text blank ih =>
    subst cursor
    change skipBlanks front = '#' :: text at blank
    have feed : '\n' ∈ text := by
      apply Classical.byContradiction
      intro none
      exact closed (commentOpen_of_skipBlanks (blank ▸ commentOpen_cons none))
    obtain ⟨rest, reached⟩ := dropWhile_feed feed
    rw [reached, start_solid line (by decide) (by decide) (by decide)] at empty
    cases empty
  | case2 cursor text blank ih =>
    subst cursor
    change skipBlanks front = '\\' :: '\n' :: text at blank
    have closedRest : ¬CommentOpen text := fun opened =>
      closed (commentOpen_of_skipBlanks (blank ▸ opened.prepend ['\\', '\n']))
    have counted : lineBreaks text + 1 = lineBreaks front := by
      rw [← lineBreaks_skipBlanks front, blank]
      simp [lineBreaks]
    rw [start_join line (dropWhile_append_of_cons blank back), ← counted]
    refine (ih closedRest rfl empty).trans ?_
    rw [Nat.add_right_comm, Nat.add_assoc]
  | case3 cursor text blank ih =>
    subst cursor
    change skipBlanks front = '\\' :: '\r' :: '\n' :: text at blank
    have closedRest : ¬CommentOpen text := fun opened =>
      closed (commentOpen_of_skipBlanks (blank ▸ opened.prepend ['\\', '\r', '\n']))
    have counted : lineBreaks text + 1 = lineBreaks front := by
      rw [← lineBreaks_skipBlanks front, blank]
      simp [lineBreaks]
    rw [start_joinReturn line (dropWhile_append_of_cons blank back), ← counted]
    refine (ih closedRest rfl empty).trans ?_
    rw [Nat.add_right_comm, Nat.add_assoc]
  | case4 cursor comment join joinReturn =>
    subst cursor
    have none : skipBlanks front = [] := empty
    have counted : lineBreaks front = 0 := by
      rw [← lineBreaks_skipBlanks front, none]
      rfl
    rw [counted]
    apply start_congr
    exact List.dropWhile_append_of_pos (List.dropWhile_eq_nil_iff.mp none)

theorem lineClosed_cons {lexeme : Lexeme} {rest : List Lexeme}
    (closed : LineClosed (lexeme :: rest)) :
    LineClosed rest ∧ (lexeme.token = .endOfLine ∨ ∃ last ∈ rest, last.token = .endOfLine) := by
  cases rest with
  | nil => exact ⟨fun _ member => (by cases member), .inl (closed lexeme rfl)⟩
  | cons second rest =>
    have inner : LineClosed (second :: rest) := by
      intro last member
      exact closed last (by rwa [List.getLast?_cons_cons])
    refine ⟨inner, .inr ⟨(second :: rest).getLast (by simp), List.getLast_mem _, ?_⟩⟩
    exact inner _ (List.getLast?_eq_some_getLast (by simp))

/-- A token that closes its line, or that a later line end follows, is read the same with more text
behind. -/
theorem next_append {cursor : Cursor}
    (feed : cursor.next.1 = .endOfLine ∨ '\n' ∈ cursor.next.2.rest) (back : List Char) :
    (cursor.append back).next = (cursor.next.1, cursor.next.2.append back) := by
  have found : next ⟨cursor.rest ++ [], cursor.line⟩ =
      (cursor.next.1, ⟨cursor.next.2.rest ++ [], cursor.next.2.line⟩) := by
    rw [List.append_nil, List.append_nil]
  exact next_exchange found feed.symm back

/-- The tokens of a text without an open comment whose last line is closed, and then those of the
text behind it. -/
theorem lexemes_append {cursor : Cursor} (ended : LineClosed cursor.body)
    (closed : ¬CommentOpen cursor.rest) (back : List Char) :
    (cursor.append back).lexemes =
      cursor.body ++ lexemes ⟨back, cursor.line + lineBreaks cursor.rest⟩ := by
  induction cursor using token_induction with
  | stop cursor stop =>
    rw [body_end stop, List.nil_append]
    apply lexemes_congr
    rw [next, next, append, start_append (next_endOfText stop).1 closed]
  | more cursor more ih =>
    rw [body_more more] at ended ⊢
    obtain ⟨endedRest, last⟩ := lineClosed_cons ended
    have feed : cursor.next.1 = .endOfLine ∨ '\n' ∈ cursor.next.2.rest := by
      rcases last with ended | ⟨lexeme, member, ended⟩
      · exact .inl ended
      · exact .inr (feed_mem_of_endOfLine member ended)
    obtain ⟨before, parted⟩ := next_suffix cursor
    have closedRest : ¬CommentOpen cursor.next.2.rest := fun opened =>
      closed (parted ▸ opened.prepend before)
    have shifted := next_append feed back
    rw [lexemes_more (by rwa [shifted]), shifted, ih endedRest closedRest, line_next cursor]
    rfl

private theorem start_start (cursor : Cursor) : cursor.start.start = cursor.start := by
  fun_induction start cursor with
  | case1 cursor text blank ih | case2 cursor text blank ih | case3 cursor text blank ih => exact ih
  | case4 cursor comment join joinReturn =>
    have kept : skipBlanks (skipBlanks cursor.rest) = skipBlanks cursor.rest :=
      List.dropWhile_idempotent isBlank cursor.rest
    rw [start_token cursor.line, kept]
    · rw [kept]
      exact comment
    · rw [kept]
      exact join
    · rw [kept]
      exact joinReturn

theorem skipBlanks_blanks_append (text : List Char) {head : Char} (solid : isBlank head = false)
    (rest : List Char) : skipBlanks (text.takeWhile isBlank ++ head :: rest) = head :: rest := by
  have blanks : ∀ letter ∈ text.takeWhile isBlank, isBlank letter = true :=
    List.all_eq_true.mp List.all_takeWhile
  rw [skipBlanks, List.dropWhile_append_of_pos blanks]
  simp [solid]

private theorem exists_gap {cursor : Cursor} {head : Char} {tail : List Char}
    (begins : cursor.start.rest = head :: tail) (feed : head ≠ '\n') :
    ∃ gap, cursor.rest = gap ++ cursor.start.rest ∧
      (start ⟨gap, cursor.line⟩).rest = [] := by
  fun_induction start cursor with
  | case1 cursor text blank ih =>
    by_cases present : '\n' ∈ text
    · obtain ⟨rest, reached⟩ := dropWhile_feed present
      rw [reached, start_solid _ (by decide) (by decide) (by decide)] at begins
      injection begins with same
      exact absurd same.symm feed
    · have none : text.dropWhile (· ≠ '\n') = [] := by
        apply List.dropWhile_eq_nil_iff.mpr
        intro letter member
        simpa using fun same : letter = '\n' => present (same ▸ member)
      have shorter := length_start ⟨text.dropWhile (· ≠ '\n'), cursor.line⟩
      rw [begins, none] at shorter
      cases shorter
  | case2 cursor text blank ih =>
    obtain ⟨gap, parted, empty⟩ := ih begins
    refine ⟨cursor.rest.takeWhile isBlank ++ '\\' :: '\n' :: gap, ?_, ?_⟩
    · have whole := skipBlanks_parts cursor.rest
      rw [blank] at whole
      rw [List.append_assoc, List.cons_append, List.cons_append, ← parted, ← whole]
    · rw [start_join cursor.line (skipBlanks_blanks_append _ (by decide) _)]
      exact empty
  | case3 cursor text blank ih =>
    obtain ⟨gap, parted, empty⟩ := ih begins
    refine ⟨cursor.rest.takeWhile isBlank ++ '\\' :: '\r' :: '\n' :: gap, ?_, ?_⟩
    · have whole := skipBlanks_parts cursor.rest
      rw [blank] at whole
      rw [List.append_assoc, List.cons_append, List.cons_append, List.cons_append, ← parted,
        ← whole]
    · rw [start_joinReturn cursor.line (skipBlanks_blanks_append _ (by decide) _)]
      exact empty
  | case4 cursor comment join joinReturn =>
    have blanks : skipBlanks (cursor.rest.takeWhile isBlank) = [] :=
      List.dropWhile_eq_nil_iff.mpr (List.all_eq_true.mp List.all_takeWhile)
    refine ⟨cursor.rest.takeWhile isBlank, skipBlanks_parts cursor.rest, ?_⟩
    rw [start_token cursor.line, blanks]
    all_goals
      intro text same
      rw [blanks] at same
      cases same

/-- A text falls into the text before a token, which has the tokens before it, and the text that
begins with it. -/
structure Cut (cursor : Cursor) (before rest : List Char) (earlier later : List Lexeme) : Prop where
  whole : cursor.rest = before ++ rest
  body_before : body ⟨before, cursor.line⟩ = earlier
  lexemes_rest : lexemes ⟨rest, cursor.line + lineBreaks before⟩ = later
  atOnce : start ⟨rest, cursor.line + lineBreaks before⟩ = ⟨rest, cursor.line + lineBreaks before⟩

/-- A text whose next token is no line end, cut at that token. -/
theorem cut_next {cursor : Cursor} (solid : cursor.next.1.isEnd = false) :
    ∃ before, Cut cursor before cursor.start.rest [] cursor.lexemes := by
  obtain ⟨head, tail, begins, feed⟩ : ∃ head tail, cursor.start.rest = head :: tail ∧
      head ≠ '\n' := by
    have taken : (take cursor.start.line cursor.start.rest).1.isEnd = false := solid
    cases rest : cursor.start.rest with
    | nil =>
      rw [rest] at taken
      cases taken
    | cons head tail =>
      refine ⟨head, tail, rfl, ?_⟩
      rintro rfl
      rw [rest] at taken
      cases taken
  obtain ⟨before, whole, empty⟩ := exists_gap begins feed
  have reached :
      (⟨cursor.start.rest, cursor.line + lineBreaks before⟩ : Cursor) = cursor.start := by
    have counted := line_start cursor
    rw [congrArg lineBreaks whole, lineBreaks_append] at counted
    rw [show cursor.line + lineBreaks before = cursor.start.line by omega]
  refine ⟨before, whole, ?_, ?_, ?_⟩
  · apply body_end
    rw [next, empty]
    rfl
  · apply lexemes_congr
    rw [reached, next, start_start]
    rfl
  · rw [reached, start_start]

/-- A token can be cut off from what stands before it when that is closed by a line end. -/
theorem exists_cut {cursor : Cursor} {earlier later : List Lexeme} {first : Lexeme}
    (parted : cursor.lexemes = earlier ++ first :: later) (closed : LineClosed earlier)
    (solid : first.token.isEnd = false) :
    ∃ before rest, Cut cursor before rest earlier (first :: later) := by
  induction earlier generalizing cursor with
  | nil =>
    have taken : cursor.next.1 = first.token := by
      rw [lexemes] at parted
      split at parted <;> cases parted <;> rfl
    rw [List.nil_append] at parted
    obtain ⟨before, cut⟩ := cut_next (taken ▸ solid)
    exact ⟨before, cursor.start.rest, parted ▸ cut⟩
  | cons lexeme earlier ih =>
    have more : cursor.next.1 ≠ .endOfText := by
      intro ended
      rw [lexemes_end ended] at parted
      simp at parted
    rw [lexemes_more more] at parted
    injection parted with same parted
    obtain ⟨closedRest, last⟩ := lineClosed_cons closed
    obtain ⟨inner, rest, cut⟩ := ih parted closedRest
    obtain ⟨taken, split⟩ := next_suffix cursor
    have feed : '\n' ∈ inner ∨ cursor.next.1 = .endOfLine := by
      rcases last with ended | ⟨ending, member, ended⟩
      · exact .inr ((congrArg Lexeme.token same).trans ended)
      · exact .inl (feed_mem_of_endOfLine (cut.body_before ▸ member) ended)
    have found : next ⟨taken ++ inner ++ rest, cursor.line⟩ =
        (cursor.next.1, ⟨inner ++ rest, cursor.next.2.line⟩) := by
      rw [List.append_assoc, ← cut.whole, split]
    have shorter : next ⟨taken ++ inner, cursor.line⟩ =
        (cursor.next.1, ⟨inner, cursor.next.2.line⟩) := by
      have exchanged := next_exchange found feed []
      rwa [List.append_nil, List.append_nil] at exchanged
    have counted := line_next ⟨taken ++ inner, cursor.line⟩
    rw [shorter] at counted
    refine ⟨taken ++ inner, rest, ?_, ?_, ?_, ?_⟩
    · rw [List.append_assoc, ← cut.whole, split]
    · rw [body_more (by rwa [shorter]), shorter, cut.body_before, same]
    · rw [← counted]
      exact cut.lexemes_rest
    · rw [← counted]
      exact cut.atOnce

theorem endOfText_not_mem_body {cursor : Cursor} {lexeme : Lexeme} (member : lexeme ∈ cursor.body) :
    lexeme.token ≠ .endOfText := by
  induction cursor using token_induction with
  | stop cursor stop =>
    rw [body_end stop] at member
    cases member
  | more cursor more ih =>
    rw [body_more more] at member
    rcases List.mem_cons.mp member with rfl | later
    · exact more
    · exact ih later

end Cursor

namespace Statement

open Cursor (Lexeme)

/-- A row of tokens is empty or its last one closes a statement. -/
def Closed (lexemes : List Lexeme) : Prop := ∀ last ∈ lexemes.getLast?, last.token.isEnd = true

theorem ofLexemes_end {first : Lexeme} (ended : first.token.isEnd = true) (rest : List Lexeme) :
    ofLexemes (first :: rest) = ofLexemes rest := by
  rw [ofLexemes, if_pos ended]

theorem ofLexemes_closed {first closing : Lexeme} {others : List Lexeme}
    (solid : first.token.isEnd = false)
    (inside : ∀ lexeme ∈ others, lexeme.token.isEnd = false) (ended : closing.token.isEnd = true)
    (later : List Lexeme) :
    ofLexemes (first :: (others ++ closing :: later)) =
      ⟨first, others, closing⟩ :: ofLexemes later := by
  have kept : ∀ lexeme ∈ others, (!lexeme.token.isEnd) = true := by
    intro lexeme member
    rw [inside lexeme member]
    rfl
  have taken : (others ++ closing :: later).takeWhile (!·.token.isEnd) = others := by
    simp [List.takeWhile_append_of_pos kept, ended]
  have left : (others ++ closing :: later).dropWhile (!·.token.isEnd) = closing :: later := by
    simp [List.dropWhile_append_of_pos kept, ended]
  rw [ofLexemes, if_neg (by simp [solid])]
  dsimp only
  split
  · rename_i same
    rw [left] at same
    cases same
    rw [taken]
  · rename_i same
    rw [left] at same
    cases same

theorem ofLexemes_unclosed {first : Lexeme} {others : List Lexeme}
    (solid : first.token.isEnd = false)
    (inside : ∀ lexeme ∈ others, lexeme.token.isEnd = false) :
    ofLexemes (first :: others) = [⟨first, others, ⟨.endOfText, first.line⟩⟩] := by
  have kept : ∀ lexeme ∈ others, (!lexeme.token.isEnd) = true := by
    intro lexeme member
    rw [inside lexeme member]
    rfl
  have left : others.dropWhile (!·.token.isEnd) = [] := List.dropWhile_eq_nil_iff.mpr kept
  have taken : others.takeWhile (!·.token.isEnd) = others := List.takeWhile_eq_self_iff.mpr kept
  rw [ofLexemes, if_neg (by simp [solid])]
  dsimp only
  split
  · rename_i same
    rw [left] at same
    cases same
  · rw [taken]

/-- Tokens fall into line ends, closed statements and an unclosed one. -/
theorem lexemes_induction {motive : List Lexeme → Prop} (nil : motive [])
    (blank : ∀ first rest, first.token.isEnd = true → motive rest → motive (first :: rest))
    (closed : ∀ first others closing later, first.token.isEnd = false →
      (∀ lexeme ∈ others, lexeme.token.isEnd = false) → closing.token.isEnd = true →
      motive later → motive (first :: (others ++ closing :: later)))
    (unclosed : ∀ first others, first.token.isEnd = false →
      (∀ lexeme ∈ others, lexeme.token.isEnd = false) → motive (first :: others))
    (lexemes : List Lexeme) : motive lexemes := by
  fun_induction ofLexemes lexemes with
  | case1 => exact nil
  | case2 first rest ended ih => exact blank first rest ended ih
  | case3 first rest solid others closing later after ih =>
    have inside : ∀ lexeme ∈ others, lexeme.token.isEnd = false := by
      intro lexeme member
      simpa using List.all_eq_true.mp List.all_takeWhile lexeme member
    have ended : closing.token.isEnd = true := by
      have stops := List.head?_dropWhile_not (!·.token.isEnd) rest
      simpa [after] using stops
    have whole : rest = others ++ closing :: later :=
      after ▸ List.takeWhile_append_dropWhile.symm
    rw [whole]
    exact closed first others closing later (by simpa using solid) inside ended ih
  | case4 first rest solid others after =>
    have inside : ∀ lexeme ∈ rest, lexeme.token.isEnd = false := by
      intro lexeme member
      simpa using List.dropWhile_eq_nil_iff.mp after lexeme member
    exact unclosed first rest (by simpa using solid) inside

theorem Closed.cons {first : Lexeme} {rest : List Lexeme} (closed : Closed rest)
    (ended : rest = [] → first.token.isEnd = true) : Closed (first :: rest) := by
  cases rest with
  | nil =>
    intro last member
    cases member
    exact ended rfl
  | cons second rest =>
    intro last member
    exact closed last (by rwa [List.getLast?_cons_cons] at member)

theorem Closed.append {back : List Lexeme} (closed : Closed back) (filled : back ≠ [])
    (front : List Lexeme) : Closed (front ++ back) := by
  intro last member
  rw [List.getLast?_append_of_ne_nil _ filled] at member
  exact closed last member

theorem closed_of_cons {first : Lexeme} {rest : List Lexeme} (closed : Closed (first :: rest)) :
    Closed rest := by
  cases rest with
  | nil =>
    intro _ member
    cases member
  | cons second rest =>
    intro last member
    exact closed last (by rwa [List.getLast?_cons_cons])

theorem closed_of_append {front back : List Lexeme} (closed : Closed (front ++ back)) :
    Closed back := by
  induction front with
  | nil => exact closed
  | cons first front ih => exact ih (closed_of_cons closed)

/-- The statements of closed tokens, and then those of the tokens behind them. -/
theorem ofLexemes_append {front : List Lexeme} (closed : Closed front) (back : List Lexeme) :
    ofLexemes (front ++ back) = ofLexemes front ++ ofLexemes back := by
  induction front using lexemes_induction with
  | nil => rw [ofLexemes, List.nil_append, List.nil_append]
  | blank first rest ended ih =>
    rw [List.cons_append, ofLexemes_end ended, ofLexemes_end ended, ih (closed_of_cons closed)]
  | closed first others closing later solid inside ended ih =>
    have closedLater : Closed later := by
      apply closed_of_cons
      exact closed_of_append (closed_of_cons closed)
    rw [List.cons_append, List.append_assoc, List.cons_append,
      ofLexemes_closed solid inside ended, ofLexemes_closed solid inside ended, ih closedLater,
      List.cons_append]
  | unclosed first others solid inside =>
    have last := closed _ (List.getLast?_eq_some_getLast (List.cons_ne_nil first others))
    rcases List.mem_cons.mp (List.getLast_mem (List.cons_ne_nil first others)) with same | member
    · rw [same, solid] at last
      cases last
    · rw [inside _ member] at last
      cases last

/-- A statement among others begins with a token that closed tokens stand before. -/
theorem exists_tokens {lexemes : List Lexeme} {earlier later : List Statement}
    {statement : Statement} (parted : ofLexemes lexemes = earlier ++ statement :: later) :
    ∃ front back, lexemes = front ++ statement.first :: back ∧ Closed front ∧
      statement.first.token.isEnd = false ∧ ofLexemes front = earlier ∧
      ofLexemes (statement.first :: back) = statement :: later := by
  induction lexemes using lexemes_induction generalizing earlier with
  | nil => simp [ofLexemes] at parted
  | blank first rest ended ih =>
    rw [ofLexemes_end ended] at parted
    obtain ⟨front, back, whole, closed, solid, before, after⟩ := ih parted
    refine ⟨first :: front, back, by rw [whole]; rfl, closed.cons fun _ => ended, solid, ?_, after⟩
    rw [ofLexemes_end ended, before]
  | closed first others closing rest solid inside ended ih =>
    rw [ofLexemes_closed solid inside ended] at parted
    cases earlier with
    | nil =>
      rw [List.nil_append] at parted
      injection parted with same parted
      subst statement
      refine ⟨[], others ++ closing :: rest, rfl, fun _ member => (by cases member), solid,
        ofLexemes.eq_1, ?_⟩
      rw [ofLexemes_closed solid inside ended, parted]
    | cons statement' earlier =>
      rw [List.cons_append] at parted
      injection parted with same parted
      obtain ⟨front, back, whole, closed, solid', before, after⟩ := ih parted
      refine ⟨first :: (others ++ closing :: front), back, ?_, ?_, solid', ?_, after⟩
      · rw [whole, List.cons_append, List.append_assoc, List.cons_append]
      · exact (closed.cons fun _ => ended).append (List.cons_ne_nil _ _) (first :: others)
      · rw [ofLexemes_closed solid inside ended, before, same]
  | unclosed first others solid inside =>
    rw [ofLexemes_unclosed solid inside] at parted
    have short := congrArg List.length parted
    cases earlier with
    | nil =>
      rw [List.nil_append] at parted
      injection parted with same parted
      subst statement
      refine ⟨[], others, rfl, fun _ member => (by cases member), solid, ofLexemes.eq_1, ?_⟩
      rw [ofLexemes_unclosed solid inside, parted]
    | cons statement' earlier =>
      simp at short

theorem ofText_eq_body {text : String} {line : Nat}
    (closed : Closed (Cursor.ofText text line).body) :
    ofText text line = ofLexemes (Cursor.ofText text line).body := by
  have last : ofLexemes [⟨.endOfText, line + Cursor.lineBreaks text.toList⟩] = [] := by
    rw [ofLexemes_end rfl, ofLexemes]
  rw [ofText, Cursor.lexemes_eq_body, ofLexemes_append closed]
  exact (congrArg _ last).trans (List.append_nil _)

private theorem closed_of_lineClosed {lexemes : List Lexeme} (closed : Cursor.LineClosed lexemes) :
    Closed lexemes := by
  intro last member
  rw [closed last member]
  rfl

/-- The statements of a text without an open comment whose last line is closed, and then those of
the text behind it. -/
theorem ofText_append {front : String} {line : Nat}
    (ended : Cursor.LineClosed (Cursor.ofText front line).body)
    (closed : ¬Cursor.CommentOpen front.toList) (back : String) :
    ofText (front ++ back) line =
      ofText front line ++ ofText back (line + Cursor.lineBreaks front.toList) := by
  have both : Cursor.ofText (front ++ back) line =
      (Cursor.ofText front line).append back.toList := by
    rw [Cursor.ofText, String.toList_append]
    rfl
  have parts := closed_of_lineClosed ended
  rw [ofText, both, Cursor.lexemes_append ended closed]
  rw [ofLexemes_append parts, ofText_eq_body parts]
  rfl

/-- A text falls into the text before a statement, which has the statements before it, the first
token of the statement, which begins at once, and the text after that token. -/
structure Cut (text : String) (line : Nat) (earlier : List Statement) (statement : Statement)
    (later : List Statement) (before source after : String) : Prop where
  whole : text = before ++ source ++ after
  earlier_eq : ofText before line = earlier
  later_eq : ofText (source ++ after) (line + Cursor.lineBreaks before.toList) = statement :: later
  atOnce : (Cursor.ofText (source ++ after) (line + Cursor.lineBreaks before.toList)).start =
    Cursor.ofText (source ++ after) (line + Cursor.lineBreaks before.toList)
  next_eq : (Cursor.ofText (source ++ after) (line + Cursor.lineBreaks before.toList)).next =
    (statement.first.token, Cursor.ofText after statement.first.line)

private theorem lineClosed_of_tokens {cursor : Cursor} {front back : List Lexeme} {first : Lexeme}
    (tokens : cursor.lexemes = front ++ first :: back) (closed : Closed front) :
    Cursor.LineClosed front := by
  intro last member
  have inBody : last ∈ cursor.body := by
    rw [Cursor.body, tokens, List.dropLast_append_of_ne_nil (List.cons_ne_nil _ _)]
    exact List.mem_append_left _ (List.mem_of_getLast? member)
  have ended := closed last member
  have more := Cursor.endOfText_not_mem_body inBody
  cases token : last.token <;> simp_all [Token.isEnd]

/-- A text can be cut before each of its statements, and its tokens with it. -/
theorem exists_cut_tokens {text : String} {line : Nat} {earlier later : List Statement}
    {statement : Statement} (parted : ofText text line = earlier ++ statement :: later) :
    ∃ back before source after, Cut text line earlier statement later before source after ∧
      statement.first.token.isEnd = false ∧
      (Cursor.ofText text line).lexemes =
        (Cursor.ofText before line).body ++ statement.first :: back := by
  obtain ⟨front, back, tokens, closed, solid, before_eq, later_eq⟩ := exists_tokens parted
  have lineClosed : Cursor.LineClosed front := lineClosed_of_tokens tokens closed
  obtain ⟨before, rest, cut⟩ := Cursor.exists_cut tokens lineClosed solid
  generalize spot : (⟨rest, line + Cursor.lineBreaks before⟩ : Cursor) = cursor
  have lexemes : cursor.lexemes = statement.first :: back := spot ▸ cut.lexemes_rest
  have first : statement.first = ⟨cursor.next.1, cursor.next.2.line⟩ := by
    rw [Cursor.lexemes] at lexemes
    split at lexemes <;> exact (List.cons.inj lexemes).1.symm
  obtain ⟨source, parts⟩ := Cursor.next_suffix cursor
  have restParts : source ++ cursor.next.2.rest = rest := by rw [parts, ← spot]
  have here : Cursor.ofText (String.ofList source ++ String.ofList cursor.next.2.rest)
      (line + Cursor.lineBreaks (String.ofList before).toList) = cursor := by
    rw [Cursor.ofText, String.toList_append, String.toList_ofList, String.toList_ofList,
      String.toList_ofList, restParts, spot]
  have bodyBefore : (Cursor.ofText (String.ofList before) line).body = front := by
    rw [Cursor.ofText, String.toList_ofList]
    exact cut.body_before
  refine ⟨back, String.ofList before, String.ofList source, String.ofList cursor.next.2.rest,
    ⟨?_, ?_, ?_, ?_, ?_⟩, solid, bodyBefore ▸ tokens⟩
  · apply String.toList_injective
    simp only [String.toList_append, String.toList_ofList, List.append_assoc, restParts]
    exact cut.whole
  · rw [ofText_eq_body (bodyBefore ▸ closed), bodyBefore, before_eq]
  · rw [ofText, here, lexemes, later_eq]
  · rw [here]
    exact spot ▸ cut.atOnce
  · rw [here, first, Cursor.ofText, String.toList_ofList]

/-- A text can be cut before each of its statements. -/
theorem exists_cut {text : String} {line : Nat} {earlier later : List Statement}
    {statement : Statement} (parted : ofText text line = earlier ++ statement :: later) :
    ∃ before source after, Cut text line earlier statement later before source after := by
  obtain ⟨_, before, source, after, cut, -, -⟩ := exists_cut_tokens parted
  exact ⟨before, source, after, cut⟩

/-- The line of a statement counts the line breaks up to the end of its first token. -/
theorem Cut.line_first {text : String} {line : Nat} {earlier later : List Statement}
    {statement : Statement} {before source after : String}
    (cut : Cut text line earlier statement later before source after) :
    statement.first.line = line + Cursor.lineBreaks (before ++ source).toList := by
  have counted := Cursor.line_next
    (Cursor.ofText (source ++ after) (line + Cursor.lineBreaks before.toList))
  rw [cut.next_eq] at counted
  simp only [Cursor.ofText, String.toList_append, Cursor.lineBreaks_append] at counted ⊢
  omega

end Statement

end GpuScript
