import GpuScript.Proofs.Except
import GpuScript.Proofs.Section.Operations

namespace GpuScript

theorem Token.isWord_of_text {token : Token} (filled : token.text ≠ "") : token.isWord = true := by
  cases token with
  | word => rfl
  | _ => exact absurd rfl filled

theorem Token.isEnd_of_isWord {token : Token} (isWord : token.isWord = true) :
    token.isEnd = false := by
  cases token <;> first | rfl | cases isWord

theorem Token.isEnd_of_isInteger {token : Token} (isInteger : token.isInteger = true) :
    token.isEnd = false := by
  cases token <;> first | rfl | cases isInteger

theorem Token.isWord_of_isInteger {token : Token} (isInteger : token.isInteger = true) :
    token.isWord = false := by
  cases token <;> first | rfl | cases isInteger

theorem Token.isEnd_of_text {token : Token} {text : String} (named : token.text = text)
    (filled : text ≠ "") : token.isEnd = false :=
  isEnd_of_isWord (isWord_of_text (named ▸ filled))

/-- The text of a word behind a colon at its front. -/
def Token.suffix? (token : Token) : Option (List Char) :=
  match token.text.toList with
  | ':' :: text => some text
  | _ => none

theorem Token.isWord_of_suffix? {token : Token} {text : List Char}
    (behind : token.suffix? = some text) : token.isWord = true := by
  cases token with
  | word => rfl
  | _ => cases behind

namespace Words

def head (words : Words) : Token :=
  match words.rest with
  | [] => words.closing.token
  | lexeme :: _ => lexeme.token

def tail (words : Words) : Words :=
  match words.rest with
  | [] => { words with line := words.closing.line }
  | lexeme :: rest => { words with rest, line := lexeme.line }

/-- Only the closing token ends a statement. -/
structure Proper (words : Words) : Prop where
  closing : words.closing.token.isEnd = true
  inside : ∀ lexeme ∈ words.rest, lexeme.token.isEnd = false

/-- Words that are left of others after some tokens are taken. -/
structure Follows (words before : Words) : Prop where
  rest : words.rest <:+ before.rest
  closing : words.closing = before.closing

theorem Follows.refl (words : Words) : words.Follows words := ⟨List.suffix_refl _, rfl⟩

theorem Follows.trans {first next last : Words} (right : last.Follows next)
    (left : next.Follows first) : last.Follows first :=
  ⟨right.rest.trans left.rest, right.closing.trans left.closing⟩

theorem follows_tail (words : Words) : words.tail.Follows words := by
  obtain ⟨rest, closing, line⟩ := words
  cases rest with
  | nil => exact ⟨List.suffix_refl _, rfl⟩
  | cons lexeme rest => exact ⟨List.suffix_cons lexeme rest, rfl⟩

theorem length_tail (words : Words) : words.tail.rest.length = words.rest.length - 1 := by
  obtain ⟨rest, closing, line⟩ := words
  cases rest <;> rfl

theorem Proper.follows {words before : Words} (proper : before.Proper)
    (follows : words.Follows before) : words.Proper :=
  ⟨follows.closing ▸ proper.closing,
    fun lexeme member => proper.inside lexeme (follows.rest.subset member)⟩

theorem Proper.exists_head {words : Words} (proper : words.Proper)
    (solid : words.head.isEnd = false) :
    ∃ lexeme rest, words.rest = lexeme :: rest ∧ words.head = lexeme.token ∧
      words.tail = { words with rest, line := lexeme.line } := by
  obtain ⟨rest, closing, line⟩ := words
  cases rest with
  | nil =>
    have ended := proper.closing
    change closing.token.isEnd = false at solid
    rw [solid] at ended
    cases ended
  | cons lexeme rest => exact ⟨lexeme, rest, rfl, rfl, rfl⟩

theorem Proper.rest_eq_nil {words : Words} (proper : words.Proper)
    (ended : words.head.isEnd = true) : words.rest = [] := by
  obtain ⟨rest, closing, line⟩ := words
  cases rest with
  | nil => rfl
  | cons lexeme rest =>
    have solid := proper.inside lexeme List.mem_cons_self
    rw [show lexeme.token.isEnd = true from ended] at solid
    cases solid

end Words

namespace Reader

variable {Result Next : Type} {words final : Words}

theorem bind_ok {first : Reader Result} {next : Result → Reader Next} {result : Next} :
    (first >>= next).run words = .ok (result, final) ↔
      ∃ value between, first.run words = .ok (value, between) ∧
        (next value).run between = .ok (result, final) := by
  rw [StateT.run_bind]
  constructor
  · intro done
    cases found : first.run words with
    | error fault =>
      rw [found] at done
      cases done
    | ok reading =>
      rw [found] at done
      exact ⟨reading.1, reading.2, rfl, done⟩
  · rintro ⟨value, between, found, done⟩
    rw [found]
    exact done

theorem run_bind_of_ok {first : Reader Result} {value : Result}
    (ran : first.run words = .ok (value, final)) (next : Result → Reader Next) :
    (first >>= next).run words = (next value).run final := by
  rw [StateT.run_bind, ran]
  rfl

theorem map_ok {reader : Reader Result} {change : Result → Next} {result : Next}
    (done : (change <$> reader).run words = .ok (result, final)) :
    ∃ value, reader.run words = .ok (value, final) ∧ result = change value := by
  rw [StateT.run_map] at done
  cases found : reader.run words with
  | error fault =>
    rw [found] at done
    cases done
  | ok reading =>
    rw [found] at done
    cases done
    exact ⟨reading.1, rfl, rfl⟩

theorem lift_ok {operation : Except Fault Result} {result : Result}
    (done : (liftM operation : Reader Result).run words = .ok (result, final)) :
    operation = .ok result ∧ final = words := by
  cases operation with
  | error fault => cases done
  | ok value =>
    cases done
    exact ⟨rfl, rfl⟩

/-- A reader that never succeeds. -/
def Refuses (reader : Reader Result) : Prop := ∀ words reading, reader.run words ≠ .ok reading

theorem refuses_refuse (rule : String) : Refuses (refuse rule : Reader Result) := by
  intro words reading done
  cases done

theorem refuses_refuseAt (rule : String) (token : Token) :
    Refuses (refuseAt rule token : Reader Result) := by
  intro words reading done
  cases done

/-- Past a refusal its condition does not hold. -/
theorem guard_ok {condition : Prop} [Decidable condition] {refusal : Reader PUnit}
    {rest : PUnit → Reader Next} {result : Next} (refuses : Refuses refusal)
    (done : (if condition then refusal >>= rest else rest ⟨⟩).run words = .ok (result, final)) :
    ¬condition ∧ (rest ⟨⟩).run words = .ok (result, final) := by
  split at done
  · obtain ⟨value, between, ran, -⟩ := bind_ok.mp done
    exact absurd ran (refuses _ _)
  · rename_i holds
    exact ⟨holds, done⟩

theorem run_next (words : Words) : next.run words = .ok (words.head, words.tail) := by
  obtain ⟨rest, closing, line⟩ := words
  cases rest <;> rfl

theorem run_peek (words : Words) : peek.run words = .ok (words.head, words) := by
  obtain ⟨rest, closing, line⟩ := words
  cases rest <;> rfl

theorem next_ok {token : Token} (done : next.run words = .ok (token, final)) :
    token = words.head ∧ final = words.tail := by
  rw [run_next] at done
  cases done
  exact ⟨rfl, rfl⟩

theorem expectEnd_ok {rule : String} (done : (expectEnd rule).run words = .ok (⟨⟩, final)) :
    words.head.isEnd = true := by
  obtain ⟨token, between, taken, done⟩ := bind_ok.mp done
  obtain ⟨rfl, rfl⟩ := next_ok taken
  split at done
  · cases done
  · rename_i ended
    simpa using ended

theorem integer_ok {rule : String} {token : Token}
    (done : (integer rule).run words = .ok (token, final)) :
    token = words.head ∧ final = words.tail ∧ token.isInteger = true := by
  obtain ⟨token, between, taken, done⟩ := bind_ok.mp done
  obtain ⟨rfl, rfl⟩ := next_ok taken
  obtain ⟨isInteger, done⟩ := guard_ok (refuses_refuseAt _ _) done
  cases done
  exact ⟨rfl, rfl, by simpa using isInteger⟩

theorem slot_reads {first : Nat} {command : String} {slot : BindingSlot}
    (done : (Reader.slot first command).run words = .ok (slot, final)) :
    (∃ text binding, words.head.suffix? = some text ∧ bindingOf? text = some binding ∧
        binding < wordLimit ∧ slot = ⟨first, binding⟩ ∧ final = words.tail) ∨
      words.head.suffix? = none ∧ slot = ⟨0, first⟩ ∧ final = words := by
  obtain ⟨token, between, peeked, done⟩ := bind_ok.mp done
  rw [run_peek] at peeked
  cases peeked
  split at done
  · rename_i text behind
    obtain ⟨token, between, taken, done⟩ := bind_ok.mp done
    obtain ⟨rfl, rfl⟩ := next_ok taken
    split at done
    · cases done
    · rename_i binding digits
      obtain ⟨bound, done⟩ := guard_ok (refuses_refuseAt _ _) done
      cases done
      refine .inl ⟨text, binding, ?_, digits, Nat.not_le.mp bound, rfl, rfl⟩
      rw [Token.suffix?, behind]
      rfl
  · rename_i other
    cases done
    refine .inr ⟨?_, rfl, rfl⟩
    unfold Token.suffix?
    split
    · rename_i text behind
      exact absurd behind (other text)
    · rfl

theorem slot_ok {first : Nat} {command : String} {slot : BindingSlot}
    (done : (Reader.slot first command).run words = .ok (slot, final)) : final.Follows words := by
  rcases slot_reads done with ⟨text, binding, -, -, -, -, rfl⟩ | ⟨-, -, rfl⟩
  · exact words.follows_tail
  · exact .refl final

theorem format_ok {name : String} {format : Format}
    (done : (Reader.format name).run words = .ok (format, final)) :
    Format.ofDatum name = .ok format ∧ final = words := by
  unfold Reader.format at done
  split at done
  · rename_i found
    cases done
    exact ⟨found, rfl⟩
  · cases done

/-- An offset is of whole elements, and its low 32 bits are not those of a negative number. -/
theorem offset_ok {rules : OffsetRules} {format : Format} {offset : Nat}
    (done : (Reader.offset rules format).run words = .ok (offset, final)) :
    words.head.isInteger = true ∧ 0 ≤ words.head.lowSigned ∧ offset = words.head.low ∧
      offset % format.size = 0 ∧ final = words.tail := by
  obtain ⟨token, between, taken, done⟩ := bind_ok.mp done
  obtain ⟨rfl, rfl, isInteger⟩ := integer_ok taken
  obtain ⟨positive, done⟩ := guard_ok (refuses_refuseAt _ _) done
  obtain ⟨whole, done⟩ := guard_ok (refuses_refuse _) done
  cases done
  rw [not_or, Decidable.not_not] at whole
  exact ⟨isInteger, Int.not_lt.mp positive, rfl, whole.2, rfl⟩

/-- Each token up to the end of the statement is a value, and there is one at least. -/
theorem values_ok {command : String} {format : Format} {values : List Value}
    (done : (Reader.values command format).run words = .ok (values, final)) :
    values ≠ [] ∧ values.length = words.rest.length := by
  obtain ⟨tokens, between, taken, done⟩ := bind_ok.mp done
  cases taken
  obtain ⟨found, same, read, done⟩ := bind_ok.mp done
  obtain ⟨whole, done⟩ := guard_ok (refuses_refuse _) done
  cases done
  simp only [Bool.or_eq_true, List.isEmpty_iff, not_or] at whole
  refine ⟨whole.1, ?_⟩
  rw [length_of_mapM_ok (lift_ok read).1, List.length_map]

end Reader

namespace Session

variable {Result Next : Type} {session final : Session}

def head (session : Session) : CommandHead :=
  { line := session.words.line, pipeline := session.pipelineId }

def advance (session : Session) : Session := { session with words := session.words.tail }

theorem apply_line (session : Session) :
    (read Reader.line).apply session = (.ok session.words.line, session) := rfl

theorem apply_next (session : Session) :
    (read Reader.next).apply session = (.ok session.words.head, session.advance) := by
  rw [apply_read, Reader.run_next]
  rfl

theorem apply_peek (session : Session) :
    (read Reader.peek).apply session = (.ok session.words.head, session) := by
  rw [apply_read, Reader.run_peek]

theorem apply_here (next : CommandHead → Edit Session Next) (session : Session) :
    (do let line ← read Reader.line
        let head ← headAt line
        next head).apply session = (next session.head).apply session := rfl

theorem apply_next_bind (next : Token → Edit Session Next) (session : Session) :
    (read Reader.next >>= next).apply session =
      (next session.words.head).apply session.advance :=
  Edit.apply_bind_of_ok (apply_next session) next

theorem read_ok {reader : Reader Result} {value : Result}
    (done : (read reader).apply session = (.ok value, final)) :
    ∃ words, reader.run session.words = .ok (value, words) ∧ final = { session with words } := by
  rw [apply_read] at done
  cases found : reader.run session.words with
  | ok reading =>
    rw [found] at done
    cases done
    exact ⟨reading.2, rfl, rfl⟩
  | error fault =>
    rw [found] at done
    cases done

theorem bind_read_ok {reader : Reader Result} {next : Result → Edit Session Next} {result : Next}
    (done : (read reader >>= next).apply session = (.ok result, final)) :
    ∃ value words, reader.run session.words = .ok (value, words) ∧
      (next value).apply { session with words } = (.ok result, final) := by
  obtain ⟨value, between, readDone, rest⟩ := Edit.bind_ok.mp done
  obtain ⟨words, reading, rfl⟩ := read_ok readDone
  exact ⟨value, words, reading, rest⟩

/-- An operation that never succeeds. -/
def Refuses (operation : Edit Session Result) : Prop :=
  ∀ session result final, operation.apply session ≠ (.ok result, final)

theorem refuses_throw (fault : Fault) : Refuses (throw fault : Edit Session Result) := by
  intro session result final done
  cases done

theorem refuses_refuse (rule : String) : Refuses (read (Reader.refuse rule : Reader Result)) := by
  intro session result final done
  cases done

theorem refuses_refuseAt (rule : String) (token : Token) :
    Refuses (read (Reader.refuseAt rule token : Reader Result)) := by
  intro session result final done
  cases done

theorem Refuses.bind {first : Edit Session Result} (refuses : Refuses first)
    (next : Result → Edit Session Next) : Refuses (first >>= next) := by
  intro session result final done
  obtain ⟨value, between, ran, -⟩ := Edit.bind_ok.mp done
  exact refuses session value between ran

theorem guard_ok {condition : Prop} [Decidable condition] {refusal : Edit Session PUnit}
    {rest : PUnit → Edit Session Next} {result : Next} (refuses : Refuses refusal)
    (done : (if condition then refusal >>= rest else rest ⟨⟩).apply session = (.ok result, final)) :
    ¬condition ∧ (rest ⟨⟩).apply session = (.ok result, final) := by
  split at done
  · exact absurd done (refuses.bind rest session result final)
  · rename_i holds
    exact ⟨holds, done⟩

theorem pipeline_bind_ok {next : Pipeline → Edit Session Next} {result : Next}
    (done : (pipeline >>= next).apply session = (.ok result, final)) :
    ∃ found, session.script.pipelines.get? session.pipelineId = some found ∧
      (next found).apply session = (.ok result, final) := by
  obtain ⟨found, between, ran, rest⟩ := Edit.bind_ok.mp done
  rw [apply_pipeline] at ran
  split at ran
  · rename_i present
    cases ran
    exact ⟨found, present, rest⟩
  · cases ran

private theorem drawRectangle_ok (done : drawRectangle.apply session = (.ok ⟨⟩, final)) :
    ∃ words isOrtho isPatch area, final = { session with
      words
      commands := session.commands ++
        [.drawRect session.head session.state isOrtho isPatch area] } := by
  unfold drawRectangle at done
  rw [apply_here] at done
  obtain ⟨found, -, done⟩ := pipeline_bind_ok done
  obtain ⟨-, done⟩ := guard_ok (refuses_throw _) done
  obtain ⟨draw, words, -, done⟩ := bind_read_ok done
  cases done
  exact ⟨words, draw.isOrtho, draw.isPatch, draw.area, rfl⟩

private theorem drawArrays_ok (done : drawArrays.apply session = (.ok ⟨⟩, final)) :
    ∃ words draw, Reader.arrayDraw.run session.words = .ok (draw, words) ∧
      final = { session with
        words
        commands := session.commands ++ [.drawArrays session.head session.state draw] } := by
  unfold drawArrays at done
  rw [apply_here] at done
  obtain ⟨draw, words, reading, done⟩ := bind_read_ok done
  cases done
  exact ⟨words, draw, reading, rfl⟩

/-- What follows `draw` is the word `rect` or `arrays`, and the command takes the line after it. -/
theorem draw_ok (done : draw.apply session = (.ok ⟨⟩, final)) :
    session.words.head.isWord = true ∧
      ((session.words.head.text = "rect" ∧ ∃ words isOrtho isPatch area, final = { session with
          words
          commands := session.commands ++
            [.drawRect session.advance.head session.state isOrtho isPatch area] }) ∨
        session.words.head.text = "arrays" ∧ ∃ words draw,
          Reader.arrayDraw.run session.words.tail = .ok (draw, words) ∧
          final = { session with
            words
            commands := session.commands ++
              [.drawArrays session.advance.head session.state draw] }) := by
  unfold draw at done
  rw [apply_next_bind] at done
  obtain ⟨isWord, done⟩ := guard_ok (refuses_refuseAt _ _) done
  refine ⟨by simpa using isWord, ?_⟩
  split at done
  · rename_i named
    exact .inl ⟨named, drawRectangle_ok done⟩
  · rename_i named
    exact .inr ⟨named, drawArrays_ok done⟩
  · exact absurd done (refuses_refuseAt _ _ _ _ _)

/-- A clear of an aspect or the setting of a clear value. -/
def IsClear (head : CommandHead) : Command → Prop
  | .clear other | .clearColor other _ | .clearDepth other _ | .clearStencil other _ =>
    other = head
  | _ => False

/-- A clear takes the line after the token that follows its name, be it the end of the line. -/
theorem clear_ok (done : clear.apply session = (.ok ⟨⟩, final)) :
    ∃ words command, IsClear session.advance.head command ∧
      final = { session with words, commands := session.commands ++ [command] } := by
  unfold clear at done
  rw [apply_next_bind, apply_here] at done
  split at done
  · cases done
    exact ⟨_, .clear session.advance.head, rfl, rfl⟩
  · dsimp only at done
    split at done
    · obtain ⟨value, words, -, done⟩ := bind_read_ok done
      rw [Edit.apply_bind_of_ok (Edit.apply_pure _ _)] at done
      obtain ⟨-, words, -, done⟩ := bind_read_ok done
      cases done
      exact ⟨words, .clearDepth session.advance.head value, rfl, rfl⟩
    · obtain ⟨value, words, -, done⟩ := bind_read_ok done
      rw [Edit.apply_bind_of_ok (Edit.apply_pure _ _)] at done
      obtain ⟨-, words, -, done⟩ := bind_read_ok done
      cases done
      exact ⟨words, .clearStencil session.advance.head value, rfl, rfl⟩
    · obtain ⟨value, words, -, done⟩ := bind_read_ok done
      rw [Edit.apply_bind_of_ok (Edit.apply_pure _ _)] at done
      obtain ⟨-, words, -, done⟩ := bind_read_ok done
      cases done
      exact ⟨words, .clearColor session.advance.head value, rfl, rfl⟩
    · exact absurd done ((refuses_refuseAt _ _).bind _ _ _ _)

theorem entryPoint_ok {stage : ShaderStage}
    (done : (entryPoint stage).apply session = (.ok ⟨⟩, final)) :
    ∃ words name, final = { session with
      words
      commands := session.commands ++ [.entryPoint session.head stage name] } := by
  unfold entryPoint at done
  rw [apply_here] at done
  obtain ⟨name, words, -, done⟩ := bind_read_ok done
  cases done
  exact ⟨words, name, rfl⟩

/-- What follows `compute` is the size of a dispatch, or the word `entrypoint`, after which the line
is taken. -/
theorem compute_ok (done : compute.apply session = (.ok ⟨⟩, final)) :
    (∃ words groups, (Reader.gridSize session.words.head).run session.words.tail =
        .ok (groups, words) ∧
      final = { session with
        words
        commands := session.commands ++ [.compute session.head groups] }) ∨
      session.words.head.text = "entrypoint" ∧ ∃ words name, final = { session with
        words
        commands := session.commands ++ [.entryPoint session.advance.head .compute name] } := by
  unfold compute at done
  rw [apply_here, apply_next_bind] at done
  split at done
  · rename_i named
    exact .inr ⟨named, entryPoint_ok done⟩
  · obtain ⟨groups, words, reading, done⟩ := bind_read_ok done
    cases done
    exact .inl ⟨words, groups, reading, rfl⟩

theorem patch_ok (done : patch.apply session = (.ok ⟨⟩, final)) :
    ∃ words count, Reader.patchVertexCount.run session.words = .ok (count, words) ∧
      final = { session with
        words
        state := { session.state with patchControlPoints := count }
        commands := session.commands ++ [.patchVertices session.head count] } := by
  unfold patch at done
  rw [apply_here] at done
  obtain ⟨count, words, reading, done⟩ := bind_read_ok done
  cases done
  exact ⟨words, count, reading, rfl⟩

theorem stage_ok {name : String} {stage : ShaderStage}
    (done : (Session.stage name stage).apply session = (.ok ⟨⟩, final)) :
    session.words.head.text = "entrypoint" ∧ ∃ words name, final = { session with
      words
      commands := session.commands ++ [.entryPoint session.advance.head stage name] } := by
  unfold Session.stage at done
  rw [apply_next_bind] at done
  obtain ⟨named, done⟩ := guard_ok (refuses_refuseAt _ _) done
  exact ⟨Decidable.not_not.mp named, entryPoint_ok done⟩

theorem tessellation_ok (done : tessellation.apply session = (.ok ⟨⟩, final)) :
    session.words.head.isWord = true ∧ session.advance.words.head.text = "entrypoint" ∧
      ∃ words stage name, final = { session with
        words
        commands := session.commands ++
          [.entryPoint session.advance.advance.head stage name] } := by
  unfold tessellation at done
  rw [apply_next_bind] at done
  split at done
  · rename_i named
    obtain ⟨entry, words, name, reached⟩ := stage_ok done
    exact ⟨Token.isWord_of_text (by rw [named]; decide), entry, words, _, name, reached⟩
  · rename_i named
    obtain ⟨entry, words, name, reached⟩ := stage_ok done
    exact ⟨Token.isWord_of_text (by rw [named]; decide), entry, words, _, name, reached⟩
  · exact absurd done (refuses_refuseAt _ _ _ _ _)

theorem tolerance_ok (done : tolerance.apply session = (.ok ⟨⟩, final)) :
    ∃ words tolerances, final = { session with words, tolerances } := by
  unfold tolerance at done
  obtain ⟨tolerances, words, -, done⟩ := bind_read_ok done
  cases done
  exact ⟨words, tolerances, rfl⟩

theorem setting_ok {reader : Reader StateChange}
    (done : (do changeState (← read reader)).apply session = (.ok ⟨⟩, final)) :
    ∃ words, ∃ change : StateChange, reader.run session.words = .ok (change, words) ∧
      final = { session with words, state := change session.state } := by
  obtain ⟨change, words, reading, done⟩ := bind_read_ok done
  cases done
  exact ⟨words, change, reading, rfl⟩

/-- What follows `probe` is a word: `ssbo`, or the first one of a probe of a colour attachment,
which takes the line after it. -/
theorem probe_ok {isRelative : Bool}
    (done : (Session.probe isRelative).apply session = (.ok ⟨⟩, final)) :
    session.words.head.isWord = true ∧
      (session.words.head.text = "ssbo" ∧ probeStorage.apply session.advance = (.ok ⟨⟩, final) ∨
        session.words.head.text ≠ "ssbo" ∧ ∃ words probe, final = { session with
          words
          commands := session.commands ++ [.probe session.advance.words.line probe] }) := by
  unfold Session.probe at done
  rw [apply_next_bind] at done
  obtain ⟨isWord, done⟩ := guard_ok (refuses_refuseAt _ _) done
  refine ⟨by simpa using isWord, ?_⟩
  split at done
  · rename_i stored
    exact .inl ⟨stored, done⟩
  · rename_i attached
    obtain ⟨found, -, done⟩ := pipeline_bind_ok done
    split at done
    · exact absurd done (refuses_throw _ _ _ _)
    · rw [Edit.apply_bind_of_ok (apply_line _), Edit.apply_bind_of_ok (Edit.apply_get _)] at done
      obtain ⟨probe, words, -, done⟩ := bind_read_ok done
      cases done
      exact .inr ⟨attached, words, probe, rfl⟩

theorem relativeProbe_ok (done : relativeProbe.apply session = (.ok ⟨⟩, final)) :
    session.words.head.text = "probe" ∧
      (Session.probe true).apply session.advance = (.ok ⟨⟩, final) := by
  unfold relativeProbe at done
  rw [apply_next_bind] at done
  obtain ⟨named, done⟩ := guard_ok (refuses_refuseAt _ _) done
  exact ⟨Decidable.not_not.mp named, done⟩

end Session

end GpuScript
