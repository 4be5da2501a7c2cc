import GpuScript.Proofs.Section.Decimals
import GpuScript.Proofs.Section.ProbeGrammar

namespace GpuScript

namespace Token

variable {token : Token} {literal : List Char}

/-- A literal of an integer is a number for a probe if it has a minus or is in the signed range. -/
theorem isNumber_iff_literal (faithful : token.Faithful) (showsSign : token.ShowsSign)
    (spelled : token.literal? = some literal) :
    token.IsNumber ↔ literal.head? = some '-' ∨ Literal.value literal < 2 ^ 63 := by
  have sign := showsSign literal spelled
  have isInteger : token.isInteger = true ∧ token.isDouble = false := by
    cases token <;> first | exact ⟨rfl, rfl⟩ | cases spelled
  rw [IsNumber, isInteger.1, isInteger.2, sign]
  by_cases minus : literal.head? = some '-'
  · simp [minus]
  · have range := toNat_bits_lt_iff faithful spelled minus
    simpa [minus] using range

theorem number_of_isInteger (isInteger : token.isInteger = true) (isNumber : token.IsNumber) :
    token.number = (Double.ofInt token.signed).toSingle := by
  cases token with
  | integer bits negative text =>
    have fits : ¬(!negative && decide (2 ^ 63 ≤ bits.toNat)) = true := by
      cases negative with
      | true => exact Bool.false_ne_true
      | false => simpa [IsNumber, isDouble, Token.isInteger, isNegative, Token.bits] using isNumber
    have read : (integer bits negative text).asDouble =
        .ok (.double (.ofInt (signedWord bits)) negative text) := if_neg fits
    rw [number, read]
    rfl
  | _ => cases isInteger

/-- Exactly for the literals in the signed range that is the number that they spell. -/
theorem number_eq_iff (faithful : token.Faithful) (spelled : token.literal? = some literal)
    (isNumber : token.IsNumber) :
    token.number = (Double.ofInt (Literal.value literal)).toSingle ↔
      -2 ^ 63 ≤ Literal.value literal ∧ Literal.value literal < 2 ^ 63 := by
  have isInteger : token.isInteger = true := by
    cases token <;> first | rfl | cases spelled
  rw [number_of_isInteger isInteger isNumber]
  constructor
  · intro same
    by_contra outside
    have flipped := signed_neg_iff faithful spelled (by omega)
    -- What is past the range has the other sign, and conversions keep signs.
    have signs := congrArg Single.isNegative same
    rw [Double.isNegative_toSingle, Double.isNegative_toSingle, Double.isNegative_ofInt,
      Double.isNegative_ofInt, decide_eq_decide, flipped] at signs
    exact not_iff_self signs
  · intro range
    rw [(signed_eq_value_iff faithful spelled).mpr range]

end Token

namespace Words

def unmarked (words : Words) : Words :=
  { words with rest := words.rest.filter (!·.token.isMark) }

variable {words : Words}

private theorem tokens_unmarked (words : Words) :
    words.unmarked.tokens = GpuScript.unmarked words.tokens := by
  rw [GpuScript.unmarked, tokens, tokens, List.filter_map]
  rfl

theorem Proper.unmarked (proper : words.Proper) : words.unmarked.Proper where
  closing := proper.closing
  inside lexeme member := proper.inside lexeme (List.mem_of_mem_filter member)

private theorem tail_unmarked {token : Token} {rest : List Token}
    (tokens : words.tokens = token :: rest) (plain : token.isMark = false) :
    words.unmarked.tail = words.tail.unmarked := by
  obtain ⟨lexemes, closing, line⟩ := words
  cases lexemes with
  | nil => cases tokens
  | cons lexeme lexemes =>
    obtain ⟨rfl, -⟩ := List.cons.inj tokens
    have kept : (lexeme :: lexemes).filter (!·.token.isMark) =
        lexeme :: lexemes.filter (!·.token.isMark) := List.filter_cons_of_pos (by simp [plain])
    rw [unmarked, kept]
    rfl

end Words

def Statement.unmarked (statement : Statement) : Statement :=
  { statement with others := statement.others.filter (!·.token.isMark) }

namespace Session

variable {session : Session} {name : String} {words : Words}

/-- The word that a statement of a probe begins with. -/
def probeKeyword (isRelative : Bool) : String := if isRelative then "relative" else "probe"

/-- The tokens between that word and those of the probe. -/
def probeLead (isRelative : Bool) : List Token := if isRelative then [.word "probe"] else []

/-- A probe of the pipeline's first colour attachment that nothing has been read for. -/
def startProbe (session : Session) (attachment : BufferBinding) (isRelative : Bool) : Probe :=
  { buffer := attachment.buffer, tolerances := session.tolerances, isRelative }

def probeWords (isRelative : Bool) (words : Words) : Words :=
  if isRelative then words.tail.tail else words.tail

/-- The command that a probe records, and where the session stands then. -/
def probed (session : Session) (probe : Probe) (words left : Words) : Session :=
  recorded { session with words := left } (.probe words.line probe)

variable {pipeline : Pipeline} {attachment : BufferBinding} {others : List BufferBinding}

theorem apply_probe (isRelative : Bool)
    (present : session.script.pipelines.get? session.pipelineId = some pipeline)
    (attached : pipeline.colorAttachments = attachment :: others)
    (word : session.words.head = .word name) (other : name ≠ "ssbo") :
    (Session.probe isRelative).apply session =
      match (Reader.probe (.word name) (session.startProbe attachment isRelative)).run
        session.words.tail with
      | .ok (probe, left) => (.ok ⟨⟩, session.probed probe session.words.tail left)
      | .error fault => (.error fault, session.advance) := by
  have pipelineRead : Session.pipeline.apply session.advance = (.ok pipeline, session.advance) :=
    apply_pipeline_of_some present
  have stored : (Token.word name).text ≠ "ssbo" := other
  unfold Session.probe
  rw [apply_next_bind, word, if_neg (show ¬(!(Token.word name).isWord) = true from
    Bool.false_ne_true), if_neg stored, Edit.apply_bind_of_ok pipelineRead, attached]
  dsimp only
  rw [Edit.apply_bind_of_ok (apply_line _), Edit.apply_bind_of_ok (Edit.apply_get _)]
  cases ran : (Reader.probe (.word name) (session.startProbe attachment isRelative)).run
      session.words.tail with
  | ok reading => exact Edit.apply_bind_of_ok (@apply_read_of_ok session.advance _ _ _ _ ran) _
  | error fault => exact Edit.apply_bind_of_error (@apply_read_of_error session.advance _ _ _ ran) _

variable {isRelative : Bool} {rest : List Token}

theorem apply_probeKeyword
    (present : session.script.pipelines.get? session.pipelineId = some pipeline)
    (attached : pipeline.colorAttachments = attachment :: others) (other : name ≠ "ssbo")
    (tokens : session.words.tokens = probeLead isRelative ++ .word name :: rest) :
    (dispatch (probeKeyword isRelative)).apply session =
      match (Reader.probe (.word name) (session.startProbe attachment isRelative)).run
        (probeWords isRelative session.words) with
      | .ok (probe, left) =>
        (.ok ⟨⟩, session.probed probe (probeWords isRelative session.words) left)
      | .error fault =>
        (.error fault, { session with words := probeWords isRelative session.words }) := by
  cases isRelative with
  | false =>
    obtain ⟨word, -⟩ := Words.head_of_tokens tokens
    exact apply_probe false present attached word other
  | true =>
    obtain ⟨probe, left⟩ := Words.head_of_tokens tokens
    obtain ⟨word, -⟩ := Words.head_of_tokens left
    change relativeProbe.apply session = _
    unfold relativeProbe
    rw [apply_next_bind, probe]
    exact @apply_probe session.advance name pipeline attachment others true present attached word
      other

theorem tokens_probeWords (tokens : words.tokens = probeLead isRelative ++ .word name :: rest) :
    (probeWords isRelative words).tokens = rest := by
  cases isRelative with
  | false => exact (Words.head_of_tokens tokens).2
  | true => exact (Words.head_of_tokens (Words.head_of_tokens tokens).2).2

theorem follows_probeWords (isRelative : Bool) (words : Words) :
    (probeWords isRelative words).Follows words := by
  cases isRelative with
  | false => exact words.follows_tail
  | true => exact words.tail.follows_tail.trans words.follows_tail

/-- Leaving marks out behind the first word of a probe changes nothing before it. -/
theorem probeWords_unmarked
    (tokens : words.tokens = probeLead isRelative ++ .word name :: rest) :
    probeWords isRelative words.unmarked = (probeWords isRelative words).unmarked := by
  cases isRelative with
  | false => exact Words.tail_unmarked tokens rfl
  | true =>
    change words.unmarked.tail.tail = words.tail.tail.unmarked
    rw [Words.tail_unmarked tokens rfl, Words.tail_unmarked (Words.head_of_tokens tokens).2 rfl]

private theorem spelled_of_dispatch
    (present : session.script.pipelines.get? session.pipelineId = some pipeline)
    (attached : pipeline.colorAttachments = attachment :: others) (other : name ≠ "ssbo")
    (proper : session.words.Proper)
    (tokens : session.words.tokens = probeLead isRelative ++ .word name :: rest)
    (succeeds : (dispatch (probeKeyword isRelative)).Succeeds session) :
    ∃ text : ProbeText, text.Spelled (.word name :: rest) := by
  obtain ⟨⟨⟩, final, done⟩ := succeeds
  rw [apply_probeKeyword present attached other tokens] at done
  split at done
  · rename_i probe left ran
    have inside := proper.follows (follows_probeWords isRelative session.words)
    rw [← tokens_probeWords tokens]
    exact Reader.probe_sound inside rfl ran
  · cases done

/-- The session that has recorded a probe, with all words of its statement read. -/
private def showing (session : Session) (attachment : BufferBinding) (isRelative : Bool)
    (text : ProbeText) : Session :=
  session.probed (text.probe (session.startProbe attachment isRelative))
    (probeWords isRelative session.words)
    ⟨[], session.words.closing, session.words.closing.line⟩

private theorem dispatch_of_spelled
    (present : session.script.pipelines.get? session.pipelineId = some pipeline)
    (attached : pipeline.colorAttachments = attachment :: others) (other : name ≠ "ssbo")
    (proper : session.words.Proper)
    (tokens : session.words.tokens = probeLead isRelative ++ .word name :: rest)
    {text : ProbeText} (spelled : text.Spelled (.word name :: rest)) :
    (dispatch (probeKeyword isRelative)).apply session =
      (.ok ⟨⟩, session.showing attachment isRelative text) := by
  have follows := follows_probeWords isRelative session.words
  rw [← tokens_probeWords tokens] at spelled
  rw [apply_probeKeyword present attached other tokens,
    Reader.probe_complete (proper.follows follows) _ spelled, follows.closing]
  rfl

private theorem execute_of_spelled {statement : Statement}
    (keyword : statement.first.token = .word (probeKeyword isRelative))
    (present : session.script.pipelines.get? session.pipelineId = some pipeline)
    (attached : pipeline.colorAttachments = attachment :: others) (other : name ≠ "ssbo")
    (proper : (wordsOf statement).Proper)
    (tokens : (wordsOf statement).tokens = probeLead isRelative ++ .word name :: rest)
    {text : ProbeText} (spelled : text.Spelled (.word name :: rest)) :
    (execute statement).apply session =
      (.ok ⟨⟩, ({ session with words := wordsOf statement } : Session).showing attachment
        isRelative text) := by
  have done := @dispatch_of_spelled { session with words := wordsOf statement } name pipeline
    attachment others isRelative rest present attached other proper tokens text spelled
  rw [apply_execute, apply_perform_word keyword, done]
  rfl

/-- A statement of a probe does the same without its commas and brackets. -/
theorem execute_unmarked {statement : Statement}
    (keyword : statement.first.token = .word (probeKeyword isRelative))
    (present : session.script.pipelines.get? session.pipelineId = some pipeline)
    (attached : pipeline.colorAttachments = attachment :: others) (other : name ≠ "ssbo")
    (proper : (wordsOf statement).Proper)
    (tokens : (wordsOf statement).tokens = probeLead isRelative ++ .word name :: rest)
    {text : ProbeText} (spelled : text.Spelled (.word name :: rest)) :
    (execute statement.unmarked).apply session = (execute statement).apply session := by
  have bare : (wordsOf statement.unmarked).tokens =
      probeLead isRelative ++ .word name :: unmarked rest := by
    change (wordsOf statement).unmarked.tokens = _
    rw [Words.tokens_unmarked, tokens, unmarked_append, unmarked_cons_of_plain rfl]
    cases isRelative <;> rfl
  have kept : text.Spelled (.word name :: unmarked rest) := by
    have spelled := spelled.unmarked
    rwa [unmarked_cons_of_plain rfl] at spelled
  have named : statement.unmarked.first.token = .word (probeKeyword isRelative) := keyword
  have shown := execute_of_spelled named present attached other proper.unmarked bare kept
  have place : probeWords isRelative (wordsOf statement.unmarked) =
      (probeWords isRelative (wordsOf statement)).unmarked := probeWords_unmarked tokens
  rw [shown, execute_of_spelled keyword present attached other proper tokens spelled, showing,
    showing, place]
  rfl

/-- A probe of a colour attachment is accepted exactly if its tokens are of the grammar. Then it is
recorded with the shape and the channels that its words tell and with the numbers of its area and
colour in order, and it is the same without its commas and brackets. A literal of an integer is a
number if it has a minus or is in the signed range, and what is recorded of it is the number that it
spells exactly for the literals in that range. -/
theorem execute_probe {statement : Statement} {source : String} {line : Nat}
    (member : statement ∈ Statement.ofText source line)
    (keyword : statement.first.token = .word (probeKeyword isRelative))
    (tokens : (wordsOf statement).tokens = probeLead isRelative ++ .word name :: rest)
    (other : name ≠ "ssbo")
    (present : session.script.pipelines.get? session.pipelineId = some pipeline)
    (attached : pipeline.colorAttachments = attachment :: others) :
    let outcome := (execute statement).apply session
    (outcome.1 = .ok ⟨⟩ ↔ ∃ text : ProbeText, text.Spelled (.word name :: rest)) ∧
      (∀ text : ProbeText, text.Spelled (.word name :: rest) →
        let probe := text.probe (session.startProbe attachment isRelative)
        (∃ words here, outcome = (.ok ⟨⟩, { session with
            words, commands := session.commands ++ [.probe here probe] })) ∧
          probe.placing = text.area.map Token.number ∧
          probe.coloring = text.color.map Token.number ∧
          (execute statement.unmarked).apply session = outcome) ∧
      ∀ token ∈ rest, ∀ literal ∈ token.literal?,
        (token.IsNumber ↔ literal.head? = some '-' ∨ Literal.value literal < 2 ^ 63) ∧
          (token.IsNumber → (token.number = (Double.ofInt (Literal.value literal)).toSingle ↔
            -2 ^ 63 ≤ Literal.value literal ∧ Literal.value literal < 2 ^ 63)) := by
  intro outcome
  have faithful := faithful_wordsOf member
  have proper := faithful.toProper
  refine ⟨⟨fun done => ?_, fun ⟨text, spelled⟩ => ?_⟩, fun text spelled => ?_,
    fun token inside literal spelled => ?_⟩
  · have succeeds := (execute_succeeds_iff keyword).mp (Edit.succeeds_iff.mpr done)
    exact @spelled_of_dispatch { session with words := wordsOf statement } name pipeline attachment
      others isRelative rest present attached other proper tokens succeeds
  · exact congrArg Prod.fst
      (execute_of_spelled keyword present attached other proper tokens spelled)
  · intro probe
    have shown := execute_of_spelled keyword present attached other proper tokens spelled
    have bare := execute_unmarked keyword present attached other proper tokens spelled
    obtain ⟨placing, coloring⟩ := spelled.numbers (session.startProbe attachment isRelative)
    exact ⟨⟨_, _, shown⟩, placing, coloring, bare⟩
  · have present : token ∈ (wordsOf statement).tokens := by
      rw [tokens]
      exact List.mem_append_right _ (List.mem_cons_of_mem _ inside)
    have exact := faithful.tokens token present
    have showsSign := Statement.forall_tokens Cursor.showsSign_next member token present
    exact ⟨Token.isNumber_iff_literal exact showsSign spelled, Token.number_eq_iff exact spelled⟩

/-- A rectangle in brackets with a comma here and there is the one that its numbers say. -/
theorem execute_probe_rectangle :
    let session : Session := .start (SectionTarget.graphics 8 8).script ⟨0⟩
    let source := "relative probe rect rgb (1, 2 3, 4) 1 0, 0\n"
    ∃ statement, Statement.ofText source 1 = [statement] ∧
      ((execute statement).apply session).1 = .ok ⟨⟩ ∧
      (execute statement.unmarked).apply session = (execute statement).apply session := by
  intro session source
  let zero : Token := .integer 0 false "0"
  let one : Token := .integer 1 false "1"
  let two : Token := .integer 2 false "2"
  let three : Token := .integer 3 false "3"
  let four : Token := .integer 4 false "4"
  let area : List Token := [.openBracket, one, .comma, two, three, .comma, four, .closeBracket]
  let row : List Token := .word "rgb" :: (area ++ [one, zero, .comma, zero])
  let statement : Statement := ⟨⟨.word "relative", 1⟩,
    (.word "probe" :: .word "rect" :: row).map (⟨·, 1⟩), ⟨.endOfLine, 2⟩⟩
  have read : Statement.ofText source 1 = [statement] := by decide +kernel
  have member : statement ∈ Statement.ofText source 1 := read ▸ List.mem_cons_self
  have isNumber : ∀ token ∈ [zero, one, two, three, four], token.IsNumber := by decide
  simp only [List.forall_mem_cons] at isNumber
  obtain ⟨isZero, isOne, isTwo, isThree, isFour, -⟩ := isNumber
  have placed : Listed [one, two, three, four] [one, .comma, two, three, .comma, four] :=
    .cons isOne (.comma isTwo (.plain isThree (.comma isFour .nil)))
  have colored : Listed [one, zero, zero] [one, zero, .comma, zero] :=
    .cons isOne (.plain isZero (.comma isZero .nil))
  have spelled : ProbeText.Spelled ⟨.rectangle, .rgb, [one, two, three, four], [one, zero, zero]⟩
      (.word "rect" :: row) :=
    .intro (.rectangle (.bracketed placed rfl)) (.bare colored rfl)
  have bound : (session.script.pipelines.get? session.pipelineId).map
      (·.colorAttachments.map (·.buffer)) = some [⟨0⟩] := by decide +kernel
  obtain ⟨pipeline, present, colors⟩ := Option.map_eq_some_iff.mp bound
  obtain ⟨attachment, others, attached, -⟩ := List.map_eq_cons_iff.mp colors
  obtain ⟨accepted, shown, -⟩ := @execute_probe session "rect" pipeline attachment others true row
    statement source 1 member rfl rfl (by decide) present attached
  exact ⟨statement, read, accepted.mpr ⟨_, spelled⟩, (shown _ spelled).2.2.2⟩

/-- A number below the signed range is recorded as one above zero. -/
theorem execute_probe_wrapped :
    let script := (SectionTarget.graphics 8 8).script
    let text := "probe rgb -9223372036854775809 0 1 1 1\n"
    (script.readSection ⟨0⟩ 1 text).1 = .ok ⟨⟩ ∧
      ((script.readSection ⟨0⟩ 1 text).2.commands.filterMap fun
        | .probe _ probe => some probe.area.x
        | _ => none) = [⟨0x5f000000⟩] ∧
      Literal.value "-9223372036854775809".toList = -9223372036854775809 ∧
      (Double.ofInt (-9223372036854775809)).toSingle = ⟨0xdf000000⟩ := by
  decide +kernel

end Session

end GpuScript
