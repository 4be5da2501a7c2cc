import GpuScript.Proofs.Except
import GpuScript.Proofs.Format.Rows
import GpuScript.Proofs.Section.Buffers
import GpuScript.Proofs.Section.Reading
import GpuScript.Proofs.Section.Steps
import GpuScript.Section.Run

/-! Which lists of values a command that fills a buffer takes. The values come in whole rows of the
format, and those are whole elements exactly where the format is neither a matrix nor a packed list
of channels. -/
namespace GpuScript

namespace Format

/-- The format is of single or double floats, which take literals with a point too. -/
def takesFloats (format : Format) : Bool :=
  format.isStoredAs (.float 32) || format.isStoredAs (.float 64)

/-- A literal that is a value for a format. For floats an integer must have a sign or be in the
signed range. -/
def Admits (format : Format) (token : Token) : Prop :=
  token.isDouble = true ∧ format.takesFloats = true ∨
    token.isInteger = true ∧
      (format.takesFloats = true → token.isNegative = true ∨ token.bits.toNat < 2 ^ 63)

instance (format : Format) (token : Token) : Decidable (format.Admits token) :=
  inferInstanceAs (Decidable (_ ∧ _ ∨ _ ∧ (_ → _ ∨ _)))

/-- A list of values that a format takes: there is one at least, they come in whole rows, and each
is a literal for the format. -/
def TakesList (format : Format) (values : List Token) : Prop :=
  values ≠ [] ∧ values.length % format.rowLength = 0 ∧ ∀ token ∈ values, format.Admits token

/-- A token that is an offset of whole elements. -/
structure Places (format : Format) (token : Token) : Prop where
  isInteger : token.isInteger = true
  positive : 0 ≤ token.lowSigned
  sized : format.size ≠ 0
  whole : token.low % format.size = 0

end Format

/-- Numbers are read as doubles, but for integers without a sign past the signed range. -/
theorem Token.asDouble_ok_iff {token : Token} :
    (∃ double, token.asDouble = .ok double) ↔
      token.isDouble = true ∨
        token.isInteger = true ∧ (token.isNegative = true ∨ token.bits.toNat < 2 ^ 63) := by
  cases token with
  | integer bits negative text =>
    simp only [asDouble, isDouble, isInteger, isNegative, Token.bits]
    split
    · simp_all
    · rename_i fits
      simp only [Bool.and_eq_true, Bool.not_eq_true', decide_eq_true_eq, not_and, Nat.not_le]
        at fits
      simpa [Decidable.or_iff_not_imp_left] using fits
  | _ => simp [asDouble, isDouble, isInteger]

namespace Reader

variable {words : Words}

theorem valueOf_ok_iff {command : String} {format : Format} {token : Token} :
    (∃ value, valueOf command format.takesFloats token = .ok value) ↔ format.Admits token := by
  unfold valueOf Format.Admits
  cases format.takesFloats with
  | false => cases token.isInteger <;> simp [complain]
  | true =>
    simp only [and_true, true_implies, ← Token.asDouble_ok_iff, if_true]
    cases token with
    | integer bits negative text =>
      simp only [Token.isInteger, Bool.true_or, if_true]
      cases Token.asDouble _ <;> simp [Except.map]
    | double => simp [Token.isDouble, Token.asDouble, Except.map]
    | _ => simp [complain, Token.isInteger, Token.isDouble, Token.asDouble]

/-- What is made of the values of a statement. -/
theorem run_values {command : String} {format : Format} :
    (Reader.values command format).run words =
      (words.tokens.mapM (valueOf command format.takesFloats)).bind fun values =>
        if values.isEmpty || values.length % format.rowLength != 0 then
          .error (.complaint ⟨s!"Incorrect number of values provided to {command} command", none⟩)
        else .ok (values, { words with rest := [], line := words.closing.line }) := by
  have taken : takeRest.run words =
      .ok (words.tokens, { words with rest := [], line := words.closing.line }) := rfl
  unfold values Format.rowLength Format.takesFloats
  rw [run_bind_of_ok taken, StateT.run_bind]
  cases words.tokens.mapM
    (valueOf command (format.isStoredAs (.float 32) || format.isStoredAs (.float 64))) with
  | error fault => rfl
  | ok values =>
    change StateT.run
      (if values.isEmpty || values.length % max format.type.rows 1 != 0 then _ else _) _ =
        if values.isEmpty || values.length % max format.type.rows 1 != 0 then _ else _
    split <;> rfl

theorem values_ok_iff {command : String} {format : Format} :
    (∃ reading, (Reader.values command format).run words = .ok reading) ↔
      format.TakesList words.tokens := by
  have literals : (∀ token ∈ words.tokens, format.Admits token) ↔
      ∃ values, words.tokens.mapM (valueOf command format.takesFloats) = .ok values := by
    rw [mapM_ok_iff]
    exact forall₂_congr fun _ _ => valueOf_ok_iff.symm
  rw [Format.TakesList, literals, run_values]
  cases made : words.tokens.mapM (valueOf command format.takesFloats) with
  | error fault => simp [Except.bind]
  | ok values =>
    have count := length_of_mapM_ok made
    have empty : words.tokens = [] ↔ values = [] := by
      rw [← List.length_eq_zero_iff, ← count, List.length_eq_zero_iff]
    have whole : (words.tokens ≠ [] ∧ words.tokens.length % format.rowLength = 0 ∧
          ∃ results, (.ok values : Except Fault (List Value)) = .ok results) ↔
        ¬(values.isEmpty || values.length % format.rowLength != 0) = true := by
      simp [← count, empty]
    rw [whole]
    dsimp only [Except.bind]
    split
    · rename_i refused
      exact iff_of_false nofun (not_not_intro refused)
    · rename_i accepted
      exact iff_of_true ⟨_, rfl⟩ accepted

theorem run_integer {rule : String} (isInteger : words.head.isInteger = true) :
    (integer rule).run words = .ok (words.head, words.tail) := by
  refine bind_ok.mpr ⟨words.head, words.tail, run_next words, ?_⟩
  rw [isInteger]
  rfl

theorem run_expectEnd (ended : words.head.isEnd = true) (rule : String) :
    (expectEnd rule).run words = .ok (⟨⟩, words.tail) := by
  refine bind_ok.mpr ⟨words.head, words.tail, run_next words, ?_⟩
  rw [ended]
  rfl

theorem run_offset {rules : OffsetRules} {format : Format} (places : format.Places words.head) :
    (Reader.offset rules format).run words = .ok (words.head.low, words.tail) := by
  refine bind_ok.mpr ⟨words.head, words.tail, run_integer places.isInteger, ?_⟩
  have positive : ¬words.head.lowSigned < 0 := Int.not_lt.mpr places.positive
  have whole : ¬(format.size = 0 ∨ words.head.low % format.size ≠ 0) := by
    rw [not_or, Decidable.not_not]
    exact ⟨places.sized, places.whole⟩
  dsimp only
  rw [if_neg positive, if_neg whole]
  rfl

theorem run_format {name : String} {format : Format} (named : Format.ofDatum name = .ok format) :
    (Reader.format name).run words = .ok (format, words) := by
  rw [Reader.format, named]
  rfl

end Reader

/-- A buffer that has no format of its own, or has this one. -/
def Buffer.Agrees (buffer : Buffer) (format : Format) : Prop :=
  ∀ own, buffer.ownFormat? = some own → own = format

theorem Buffer.recordSize_succeeds {buffer : Buffer} {format : Format}
    (given : buffer.format = some format) (sized : format.size ≠ 0)
    (filled : format.inputCount ≠ 0) (values : List Value) (offset : Nat) :
    (Buffer.recordSize values offset).Succeeds buffer := by
  have found : buffer.requireFormat = .ok format := by rw [requireFormat, given]
  have shaped : buffer.shapeOf format = .ok ⟨format.size, format.inputCount⟩ := by
    rw [shapeOf, if_neg (not_or.mpr ⟨sized, filled⟩)]
  unfold recordSize
  rw [Edit.succeeds_bind_of_ok (Edit.apply_get buffer), found,
    Edit.succeeds_bind_of_ok (Edit.apply_ofExcept _ buffer),
    Edit.succeeds_bind_of_ok (Edit.apply_get buffer), shaped,
    Edit.succeeds_bind_of_ok (Edit.apply_ofExcept _ buffer),
    Edit.succeeds_bind_of_ok (Edit.apply_get buffer)]
  exact Edit.succeeds_ite (Edit.succeeds_modify _ buffer) (Edit.succeeds_pure _ buffer)

namespace Session

variable {session : Session} {id : Id Buffer} {buffer : Buffer} {format : Format}

theorem read_succeeds_iff {Result : Type} {reader : Reader Result} :
    (read reader).Succeeds session ↔ ∃ reading, reader.run session.words = .ok reading := by
  rw [Edit.Succeeds]
  simp only [apply_read]
  constructor
  · rintro ⟨result, final, done⟩
    cases ran : reader.run session.words with
    | ok reading => exact ⟨reading, rfl⟩
    | error fault =>
      rw [ran] at done
      cases done
  · rintro ⟨⟨result, words⟩, ran⟩
    rw [ran]
    exact ⟨result, _, rfl⟩

theorem apply_read_of_ok {Result : Type} {reader : Reader Result} {result : Result}
    {words : Words} (ran : reader.run session.words = .ok (result, words)) :
    (read reader).apply session = (.ok result, { session with words }) := by
  rw [apply_read, ran]

theorem apply_read_of_error {Result : Type} {reader : Reader Result} {fault : Fault}
    (ran : reader.run session.words = .error fault) :
    (read reader).apply session = (.error fault, session) := by
  rw [apply_read, ran]

private theorem onBuffer_succeeds {Result : Type} {operation : Edit Buffer Result}
    (found : session.script.buffers.store.get? id = some buffer)
    (succeeds : operation.Succeeds buffer) : (onBuffer id operation).Succeeds session := by
  obtain ⟨result, after, done⟩ := succeeds
  refine ⟨result, { session with script := session.script.setBuffer id after }, ?_⟩
  rw [apply_onBuffer, Store.requireBuffer_ok_iff.mpr found]
  dsimp only
  rw [done]

theorem onBuffer_modify (change : Buffer → Buffer)
    (found : session.script.buffers.store.get? id = some buffer) :
    (onBuffer id (modify change)).apply session = (.ok ⟨⟩, { session with
      script := session.script.setBuffer id (change buffer) }) := by
  rw [apply_onBuffer, Store.requireBuffer_ok_iff.mpr found]
  rfl

theorem agreeOnFormat_of_agrees (found : session.script.buffers.store.get? id = some buffer)
    (agrees : buffer.Agrees format) (rule : String) :
    ∃ final after, (agreeOnFormat id format rule).apply session = (.ok ⟨⟩, final) ∧
      final.words = session.words ∧ final.script.buffers.store.get? id = some after ∧
      after.format = some format := by
  unfold agreeOnFormat
  rw [Edit.apply_bind_of_ok (Edit.apply_get session), Store.requireBuffer_ok_iff.mpr found,
    Edit.apply_bind_of_ok (Edit.apply_ofExcept _ session), ← Buffer.isSome_ownFormat?]
  cases own : buffer.ownFormat? with
  | some given =>
    obtain rfl := agrees given own
    have same := (Buffer.ownFormat?_eq_some_iff.mp own).1
    rw [if_pos Option.isSome_some, if_neg (Decidable.not_not.mpr same)]
    exact ⟨session, buffer, rfl, rfl, found, same⟩
  | none =>
    rw [if_neg (by simp), Edit.apply_bind_of_ok (onBuffer_modify _ found), apply_keepFormat]
    refine ⟨_, buffer.withFormat format, rfl, rfl, ?_, rfl⟩
    change (session.script.setBuffer id _).buffers.store.get? id = _
    rw [Script.get?_setBuffer, if_pos rfl, found]
    rfl

/-- A write to a buffer that agrees on the format gives back what is made of its values, and records
no command itself. -/
theorem fill_run (session : Session) {rules : Reader.OffsetRules} {command : String}
    (found : session.script.buffers.store.get? id = some buffer) (agrees : buffer.Agrees format)
    (places : format.Places session.words.head) (filled : format.inputCount ≠ 0) :
    ∃ final, final.commands = session.commands ∧ (fill rules command id format).apply session =
      (((Reader.values command format).run session.words.tail).map fun reading =>
        (session.words.head.low, reading.1), final) := by
  obtain ⟨agreed, after, done, words, present, given⟩ :=
    agreeOnFormat_of_agrees found agrees writeFormatRule
  have kept : agreed.commands = session.commands := by
    obtain ⟨_, rfl, -⟩ := agreeOnFormat_ok done
    rfl
  have placed : (Reader.offset rules format).run agreed.words =
      .ok (session.words.head.low, session.words.tail) := by
    rw [words]
    exact Reader.run_offset places
  unfold fill
  rw [Edit.apply_bind_of_ok done, Edit.apply_bind_of_ok (apply_read_of_ok placed)]
  let behind : Session := { agreed with words := session.words.tail }
  cases ran : (Reader.values command format).run session.words.tail with
  | error fault =>
    have refused : (read (Reader.values command format)).apply behind =
        (.error fault, behind) := apply_read_of_error ran
    exact ⟨behind, kept, Edit.apply_bind_of_error refused _⟩
  | ok reading =>
    obtain ⟨⟨⟩, final, recorded⟩ := @onBuffer_succeeds { agreed with words := reading.2 } id after _
      _ present (Buffer.recordSize_succeeds given places.sized filled reading.1 _)
    refine ⟨final, ?_, ?_⟩
    · obtain ⟨_, _, -, -, rfl⟩ := onBuffer_ok recorded
      exact kept
    · rw [Edit.apply_bind_of_ok (apply_read_of_ok ran), Edit.apply_bind_of_ok recorded]
      rfl

/-- A slot whose buffer takes values of a format: there is one that agrees on it, or one can be
made. -/
def Takes (session : Session) (slot : BindingSlot) (format : Format) : Prop :=
  match session.script.bufferAt? session.pipelineId slot with
  | some id =>
    ∃ buffer, session.script.buffers.store.get? id = some buffer ∧ buffer.Agrees format
  | none =>
    (session.script.pipelines.get? session.pipelineId).isSome = true ∧
      session.script.buffers.id? session.freshBuffer.name = none

theorem apply_pipeline_of_some {pipeline : Pipeline}
    (present : session.script.pipelines.get? session.pipelineId = some pipeline) :
    Session.pipeline.apply session = (.ok pipeline, session) := by
  rw [apply_pipeline, present]

private theorem apply_changePipeline_of_isSome (session : Session)
    (known : (session.script.pipelines.get? session.pipelineId).isSome = true)
    (change : Pipeline → Pipeline) :
    (changePipeline change).apply session = (.ok ⟨⟩, { session with
      script := session.script.mapPipeline session.pipelineId change }) := by
  obtain ⟨pipeline, present⟩ := Option.isSome_iff_exists.mp known
  rw [apply_changePipeline, present]

private theorem apply_makeBuffer_of_fresh
    (fresh : session.script.buffers.id? session.freshBuffer.name = none) :
    makeBuffer.apply session = (.ok session.script.buffers.store.nextId, { session with
      script := session.script.pushBuffer session.freshBuffer }) := by
  rw [apply_makeBuffer, fresh]
  rfl

/-- The buffer at a slot that takes a format agrees on it, be it there already or made. -/
theorem bufferAt_of_takes (session : Session) {slot : BindingSlot}
    (takes : session.Takes slot format) (kind : BufferKind) :
    ∃ id final buffer, (bufferAt slot kind).apply session = (.ok id, final) ∧
      final.words = session.words ∧ final.script.buffers.store.get? id = some buffer ∧
      buffer.Agrees format := by
  unfold Takes at takes
  unfold bufferAt
  cases bound : session.script.bufferAt? session.pipelineId slot with
  | some id =>
    rw [bound] at takes
    obtain ⟨buffer, found, agrees⟩ := takes
    obtain ⟨pipeline, present, there⟩ := Option.bind_eq_some_iff.mp bound
    rw [Edit.apply_bind_of_ok (apply_pipeline_of_some present), there]
    exact ⟨id, session, buffer, rfl, rfl, found, agrees⟩
  | none =>
    rw [bound] at takes
    obtain ⟨known, fresh⟩ := takes
    obtain ⟨pipeline, present⟩ := Option.isSome_iff_exists.mp known
    have free : pipeline.bufferAt? slot = none := by
      rw [Script.bufferAt?, present] at bound
      exact bound
    rw [Edit.apply_bind_of_ok (apply_pipeline_of_some present), free]
    dsimp only
    have changed := apply_changePipeline_of_isSome
      { session with script := session.script.pushBuffer session.freshBuffer } known
    rw [Edit.apply_bind_of_ok (apply_makeBuffer_of_fresh fresh),
      Edit.apply_bind_of_ok (changed _)]
    refine ⟨_, _, session.freshBuffer, rfl, rfl, ?_, fun own given => by cases given⟩
    change (session.script.buffers.store.push session.freshBuffer).get? _ = _
    rw [Store.get?_push, if_pos rfl]

end Session

/-- Tokens that begin with a slot and go on with others: a number for the binding in set zero, or
one for the set with the binding behind a colon. -/
inductive BindingSlot.Spelled : (slot : BindingSlot) → (tokens rest : List Token) → Prop where
  | binding {first next : Token} {rest : List Token} (isInteger : first.isInteger = true)
      (plain : next.suffix? = none) :
    Spelled ⟨0, first.low⟩ (first :: next :: rest) (next :: rest)
  | both {first second : Token} {rest : List Token} {text : List Char} {binding : Nat}
      (isInteger : first.isInteger = true) (behind : second.suffix? = some text)
      (digits : Reader.bindingOf? text = some binding) (bound : binding < wordLimit) :
    Spelled ⟨first.low, binding⟩ (first :: second :: rest) rest

/-- What a command writes into the buffer at a slot. -/
structure Filling where
  slot : BindingSlot
  format : Format
  offset : Token
  values : List Token

/-- Statements that write into the buffer at a slot. In a storage buffer a format is laid out by its
default rule, in a uniform buffer by that of these. -/
inductive Filling.Spelled (filling : Filling) (statement : Statement) : Prop where
  | storage {name : String} (keyword : statement.first.token = .word "ssbo")
      (tokens : filling.slot.Spelled (Session.wordsOf statement).tokens
        (.word "subdata" :: .word name :: filling.offset :: filling.values))
      (named : Format.ofDatum name = .ok filling.format)
  | uniform {name : String} {format : Format} {behind : List Token}
      (keyword : statement.first.token = .word "uniform")
      (target : (Session.wordsOf statement).tokens = .word "ubo" :: behind)
      (tokens : filling.slot.Spelled behind (.word name :: filling.offset :: filling.values))
      (named : Format.ofDatum name = .ok format)
      (laid : filling.format = { format with layout := .std140 })

theorem Filling.Spelled.inputCount_ne_zero {filling : Filling} {statement : Statement}
    (spelled : filling.Spelled statement) (sized : filling.format.size ≠ 0) :
    filling.format.inputCount ≠ 0 := by
  cases spelled with
  | storage _ _ named =>
    exact Format.inputCount_ne_zero (Format.type_of_ofDatum named) sized
  | @uniform name format _ _ _ _ named laid =>
    have same : filling.format.type = format.type := by rw [laid]
    have known : ElementType.ofDatum? name = some filling.format.type :=
      same ▸ Format.type_of_ofDatum named
    exact Format.inputCount_ne_zero known sized

theorem Words.head_of_tokens {words : Words} {token : Token} {rest : List Token}
    (same : words.tokens = token :: rest) : words.head = token ∧ words.tail.tokens = rest := by
  obtain ⟨lexemes, closing, line⟩ := words
  cases lexemes with
  | nil => cases same
  | cons lexeme lexemes =>
    obtain ⟨first, later⟩ := List.cons.inj same
    exact ⟨first, later⟩

theorem Token.suffix?_eq_some_iff {token : Token} {text : List Char} :
    token.suffix? = some text ↔ token.text.toList = ':' :: text := by
  unfold Token.suffix?
  generalize token.text.toList = letters
  constructor
  · intro behind
    split at behind
    · rw [Option.some.inj behind]
    · cases behind
  · rintro rfl
    rfl

theorem Reader.run_slot_behind {words : Words} {text : List Char} {binding : Nat}
    (behind : words.head.suffix? = some text) (digits : bindingOf? text = some binding)
    (bound : binding < wordLimit) (first : Nat) (command : String) :
    (slot first command).run words = .ok (⟨first, binding⟩, words.tail) := by
  refine bind_ok.mpr ⟨words.head, words, run_peek words, ?_⟩
  rw [Token.suffix?_eq_some_iff.mp behind]
  refine bind_ok.mpr ⟨words.head, words.tail, run_next words, ?_⟩
  rw [digits]
  dsimp only
  rw [if_neg (Nat.not_le.mpr bound)]
  rfl

theorem Reader.run_slot {words : Words} {slot : BindingSlot} {rest : List Token}
    (spelled : slot.Spelled words.tokens rest) (command : String) :
    words.head.isInteger = true ∧
      ∃ after, (Reader.slot words.head.low command).run words.tail = .ok (slot, after) ∧
        after.tokens = rest := by
  generalize same : words.tokens = tokens at spelled
  cases spelled with
  | @binding first next rest isInteger plain =>
    obtain ⟨rfl, later⟩ := Words.head_of_tokens same
    obtain ⟨rfl, -⟩ := Words.head_of_tokens later
    refine ⟨isInteger, words.tail, ?_, later⟩
    refine bind_ok.mpr ⟨words.tail.head, words.tail, run_peek _, ?_⟩
    split
    · rename_i text colon
      rw [Token.suffix?_eq_some_iff.mpr colon] at plain
      cases plain
    · rfl
  | @both first second rest text binding isInteger behind digits bound =>
    obtain ⟨rfl, later⟩ := Words.head_of_tokens same
    obtain ⟨rfl, left⟩ := Words.head_of_tokens later
    exact ⟨isInteger, words.tail.tail, run_slot_behind behind digits bound _ _, left⟩

namespace Session

variable {session : Session} {filling : Filling}

/-- A session in which only the values of a write decide. -/
structure Ready (session : Session) (filling : Filling) : Prop where
  takes : session.Takes filling.slot filling.format
  places : filling.format.Places filling.offset

theorem record_succeeds (command : Command) (session : Session) :
    (record command).Succeeds session := Edit.succeeds_modify _ session

/-- Where the offset and the values of a write are left the values decide. -/
theorem fill_ready_iff {rules : Reader.OffsetRules} {command : String} {id : Id Buffer}
    {buffer : Buffer} (found : session.script.buffers.store.get? id = some buffer)
    (agrees : buffer.Agrees filling.format) (places : filling.format.Places filling.offset)
    (filled : filling.format.inputCount ≠ 0)
    (left : session.words.tokens = filling.offset :: filling.values) :
    (fill rules command id filling.format).Succeeds session ↔
      filling.format.TakesList filling.values := by
  obtain ⟨offset, values⟩ := Words.head_of_tokens left
  obtain ⟨final, -, ran⟩ := fill_run session found agrees (offset ▸ places) filled
  rw [Edit.Succeeds, ran, ← values, ← Reader.values_ok_iff]
  cases (Reader.values command filling.format).run session.words.tail <;> simp [Except.map]

theorem storageData_run (session : Session) {id : Id Buffer} {buffer : Buffer} {name : String}
    (found : session.script.buffers.store.get? id = some buffer)
    (agrees : buffer.Agrees filling.format) (places : filling.format.Places filling.offset)
    (filled : filling.format.inputCount ≠ 0) (named : Format.ofDatum name = .ok filling.format)
    (left : session.words.tokens = .word name :: filling.offset :: filling.values) :
    ∃ words final, words.tokens = filling.values ∧ final.commands = session.commands ∧
      (storageData id).apply session =
        (((Reader.values "ssbo" filling.format).run words).map fun reading =>
          (filling.offset.low, reading.1), final) := by
  obtain ⟨word, left⟩ := Words.head_of_tokens left
  obtain ⟨offset, values⟩ := Words.head_of_tokens left
  have isWord : (Token.word name).isWord = true := rfl
  have formatRead : (read (Reader.format (Token.word name).text)).apply session.advance =
      (.ok filling.format, session.advance) := apply_read_of_ok (Reader.run_format named)
  obtain ⟨final, kept, ran⟩ :=
    fill_run session.advance found agrees (offset.symm ▸ places) filled
  refine ⟨_, final, values, kept, ?_⟩
  unfold storageData
  rw [Edit.apply_bind_of_ok (apply_next session), word, isWord]
  simp only [Bool.not_true, Bool.false_eq_true, if_false]
  rw [Edit.apply_bind_of_ok formatRead, ← offset]
  exact ran

/-- The command that records values written into a storage buffer. -/
def storageWrite (filling : Filling) (head : CommandHead) (buffer : Id Buffer)
    (values : List Value) : Command :=
  .buffer head
    { role := .ssbo, buffer, slot := filling.slot, isSubdata := true, offset := filling.offset.low,
      values }

/-- A write to a storage buffer stands or falls with what is made of its values, and its command is
recorded with these. -/
theorem storage_run (session : Session) {name : String}
    (tokens : filling.slot.Spelled session.words.tokens
      (.word "subdata" :: .word name :: filling.offset :: filling.values))
    (named : Format.ofDatum name = .ok filling.format) (ready : session.Ready filling)
    (filled : filling.format.inputCount ≠ 0) :
    ∃ words buffer final, words.tokens = filling.values ∧ final.commands = session.commands ∧
      storage.apply session =
        match (Reader.values "ssbo" filling.format).run words with
        | .ok (values, _) => (record (storageWrite filling session.head buffer values)).apply final
        | .error fault => (.error fault, final) := by
  obtain ⟨isInteger, words, slotted, later⟩ := Reader.run_slot tokens "ssbo command"
  obtain ⟨marker, behind⟩ := Words.head_of_tokens later
  obtain ⟨id, bound, buffer, done, kept, found, agrees⟩ :=
    bufferAt_of_takes { session with words } ready.takes .storage
  have unrecorded : bound.commands = session.commands := by
    obtain ⟨_, rfl, -⟩ := bufferAt_ok done
    rfl
  have located : (headAt session.words.line).apply session = (.ok session.head, session) := rfl
  have slotRead : (read (Reader.slot session.words.head.low "ssbo command")).apply session.advance =
      (.ok filling.slot, { session with words }) := apply_read_of_ok slotted
  have left : bound.advance.words.tokens = .word name :: filling.offset :: filling.values := by
    rw [advance, kept]
    exact behind
  obtain ⟨data, final, values, same, ran⟩ :=
    storageData_run bound.advance found agrees ready.places filled named left
  refine ⟨data, id, final, values, same.trans unrecorded, ?_⟩
  unfold storage
  rw [Edit.apply_bind_of_ok (apply_line session), Edit.apply_bind_of_ok located,
    Edit.apply_bind_of_ok (apply_next session), Token.isEnd_of_isInteger isInteger, isInteger]
  simp only [Bool.false_eq_true, if_false, Bool.not_true]
  rw [Edit.apply_bind_of_ok slotRead, Edit.apply_bind_of_ok (apply_peek _)]
  dsimp only
  rw [marker, if_neg (by decide), Edit.apply_bind_of_ok done,
    if_pos (show (Token.word "subdata").text = "subdata" from rfl),
    Edit.apply_bind_of_ok (apply_next bound), Edit.apply_bind, ran]
  cases (Reader.values "ssbo" filling.format).run data <;> rfl

theorem storage_succeeds_iff {name : String}
    (tokens : filling.slot.Spelled session.words.tokens
      (.word "subdata" :: .word name :: filling.offset :: filling.values))
    (named : Format.ofDatum name = .ok filling.format) (ready : session.Ready filling)
    (filled : filling.format.inputCount ≠ 0) : storage.Succeeds session ↔
      filling.format.TakesList filling.values := by
  obtain ⟨words, buffer, final, values, -, ran⟩ := storage_run session tokens named ready filled
  rw [Edit.Succeeds, ran, ← values, ← Reader.values_ok_iff]
  cases (Reader.values "ssbo" filling.format).run words with
  | error fault => simp
  | ok reading => exact iff_of_true ⟨⟨⟩, _, rfl⟩ ⟨reading, rfl⟩

theorem uniformBuffer_succeeds_iff {name : String} {format : Format}
    (tokens : filling.slot.Spelled session.words.tokens
      (.word name :: filling.offset :: filling.values))
    (named : Format.ofDatum name = .ok format)
    (laid : filling.format = { format with layout := .std140 }) (ready : session.Ready filling)
    (filled : filling.format.inputCount ≠ 0) (head : CommandHead) :
    (uniformBuffer head).Succeeds session ↔ filling.format.TakesList filling.values := by
  obtain ⟨isInteger, words, slotted, later⟩ := Reader.run_slot tokens "uniform ubo command"
  obtain ⟨word, left⟩ := Words.head_of_tokens later
  obtain ⟨id, bound, buffer, done, kept, found, agrees⟩ :=
    bufferAt_of_takes ({ session with words } : Session).advance ready.takes .uniform
  have integerRead : (read (Reader.integer "Invalid binding value for uniform ubo command")).apply
      session = (.ok session.words.head, { session with words := session.words.tail }) :=
    apply_read_of_ok (Reader.run_integer isInteger)
  have slotRead : (read (Reader.slot session.words.head.low "uniform ubo command")).apply
      { session with words := session.words.tail } = (.ok filling.slot, { session with words }) :=
    apply_read_of_ok slotted
  have isWord : (Token.word name).isWord = true := rfl
  have formatRead : (read (Reader.format (Token.word name).text)).apply bound =
      (.ok format, bound) := apply_read_of_ok (Reader.run_format named)
  unfold uniformBuffer
  rw [Edit.succeeds_bind_of_ok integerRead, Edit.succeeds_bind_of_ok slotRead,
    Edit.succeeds_bind_of_ok (apply_next _), word, isWord]
  simp only [Bool.not_true, Bool.false_eq_true, if_false]
  rw [Edit.succeeds_bind_of_ok done, Edit.succeeds_bind_of_ok formatRead, ← laid,
    Edit.succeeds_bind_iff fun _ _ _ => record_succeeds _ _]
  exact fill_ready_iff found agrees ready.places filled (kept ▸ left)

theorem uniform_succeeds_iff {name : String} {format : Format} {behind : List Token}
    (target : session.words.tokens = .word "ubo" :: behind)
    (tokens : filling.slot.Spelled behind (.word name :: filling.offset :: filling.values))
    (named : Format.ofDatum name = .ok format)
    (laid : filling.format = { format with layout := .std140 }) (ready : session.Ready filling)
    (filled : filling.format.inputCount ≠ 0) :
    uniform.Succeeds session ↔ filling.format.TakesList filling.values := by
  obtain ⟨ubo, rfl⟩ := Words.head_of_tokens target
  have located : (headAt session.words.line).apply session = (.ok session.head, session) := rfl
  unfold uniform
  rw [Edit.succeeds_bind_of_ok (apply_line session), Edit.succeeds_bind_of_ok located,
    Edit.succeeds_bind_of_ok (apply_next session), ubo, if_neg (by decide), if_neg (by decide),
    if_pos (show (Token.word "ubo").text = "ubo" from rfl)]
  have advanced : session.advance.Ready filling := ⟨ready.takes, ready.places⟩
  exact uniformBuffer_succeeds_iff tokens named laid advanced filled _

theorem apply_perform_word {statement : Statement} {name : String}
    (keyword : statement.first.token = .word name) (session : Session) :
    (perform statement).apply session =
      (dispatch name).apply { session with words := wordsOf statement } := by
  unfold perform
  rw [Edit.apply_bind_of_ok (Edit.apply_modify _ session), keyword]
  rfl

theorem execute_succeeds_iff {statement : Statement} {name : String}
    (keyword : statement.first.token = .word name) :
    (execute statement).Succeeds session ↔
      (dispatch name).Succeeds { session with words := wordsOf statement } := by
  rw [Edit.succeeds_iff, Edit.succeeds_iff, apply_execute, apply_perform_word keyword]
  rcases (dispatch name).apply { session with words := wordsOf statement } with ⟨outcome, after⟩
  cases outcome with
  | ok => exact Iff.rfl
  | error fault =>
    constructor
    · intro done
      cases done
    · intro done
      cases done

theorem execute_spelled_iff {statement : Statement} (spelled : filling.Spelled statement)
    (ready : session.Ready filling) :
    (execute statement).Succeeds session ↔ filling.format.TakesList filling.values := by
  have filled := spelled.inputCount_ne_zero ready.places.sized
  cases spelled with
  | storage keyword tokens named =>
    rw [execute_succeeds_iff keyword]
    exact storage_succeeds_iff tokens named ⟨ready.takes, ready.places⟩ filled
  | uniform keyword target tokens named laid =>
    rw [execute_succeeds_iff keyword]
    exact uniform_succeeds_iff target tokens named laid ⟨ready.takes, ready.places⟩ filled

/-- Where all else is as it must be a write is accepted exactly for a list of values in whole rows
of its format, of which there is one at least. The rows are whole elements exactly where the format
is no matrix and no packed list of several channels. -/
theorem execute_filling_iff {statement : Statement} (spelled : filling.Spelled statement)
    (ready : session.Ready filling) :
    (((execute statement).apply session).1 = .ok ⟨⟩ ↔
      filling.values ≠ [] ∧ filling.values.length % filling.format.rowLength = 0 ∧
        ∀ token ∈ filling.values, filling.format.Admits token) ∧
    (filling.format.rowLength = filling.format.inputCount ↔
      filling.format.type.isMatrix = false ∧
        (filling.format.isPacked = true → filling.format.type.rows ≤ 1)) := by
  have filled := spelled.inputCount_ne_zero ready.places.sized
  refine ⟨?_, Format.rowLength_eq_inputCount_iff filled⟩
  rw [← Edit.succeeds_iff]
  exact execute_spelled_iff spelled ready

/-- The only statement of `ssbo 0 subdata <name> 0 1 2`. -/
def pairWrite (name : String) : Statement :=
  ⟨⟨.word "ssbo", 1⟩,
    [.integer 0 false "0", .word "subdata", .word name, .integer 0 false "0",
      .integer 1 false "1", .integer 2 false "2"].map (⟨·, 1⟩), ⟨.endOfLine, 2⟩⟩

/-- What it writes in the format of a type. -/
def pairFilling (type : ElementType) : Filling :=
  ⟨⟨0, 0⟩, .ofType type, .integer 0 false "0", [.integer 1 false "1", .integer 2 false "2"]⟩

theorem spelled_pairWrite {name : String} {type : ElementType}
    (known : Format.ofDatum name = .ok (.ofType type)) :
    (pairFilling type).Spelled (pairWrite name) := by
  refine .storage rfl ?_ known
  have isInteger : (Token.integer 0 false "0").isInteger = true := rfl
  have plain : (Token.word "subdata").suffix? = none := by decide
  exact .binding isInteger plain

theorem takes_compute (slot : BindingSlot) (format : Format) :
    (Session.start SectionTarget.compute.script ⟨0⟩).Takes slot format := by
  have free : (Session.start SectionTarget.compute.script ⟨0⟩).script.bufferAt?
      (Session.start SectionTarget.compute.script ⟨0⟩).pipelineId slot = none := rfl
  unfold Takes
  rw [free]
  exact ⟨rfl, by decide +kernel⟩

/-- Two values are a vector of two rows. -/
theorem execute_filling_iff_vector :
    let session : Session := .start SectionTarget.compute.script ⟨0⟩
    let filling := pairFilling (.number { mode := .signedFloat, bits := 32, rows := 2 })
    filling.Spelled (pairWrite "vec2") ∧ session.Ready filling ∧
      ((execute (pairWrite "vec2")).apply session).1 = .ok ⟨⟩ := by
  intro session filling
  have spelled : filling.Spelled (pairWrite "vec2") := spelled_pairWrite rfl
  have ready : session.Ready filling :=
    ⟨takes_compute _ _, rfl, by decide, by decide, by decide⟩
  exact ⟨spelled, ready, (execute_filling_iff spelled ready).1.mpr (by decide)⟩

/-- Two values are half a matrix of two columns. -/
theorem execute_filling_matrix :
    ¬∀ (session : Session) (statement : Statement) (filling : Filling),
      filling.Spelled statement → session.Ready filling →
      (∀ token ∈ filling.values, token.isInteger = true) →
      (((execute statement).apply session).1 = .ok ⟨⟩ ↔
        filling.values ≠ [] ∧ filling.values.length % filling.format.inputCount = 0) := by
  intro whole
  let filling := pairFilling (.number { mode := .signedFloat, bits := 32, rows := 2, columns := 2 })
  have spelled : filling.Spelled (pairWrite "mat2") := spelled_pairWrite rfl
  have ready : (Session.start SectionTarget.compute.script ⟨0⟩).Ready filling :=
    ⟨takes_compute _ _, rfl, by decide, by decide, by decide⟩
  have taken : filling.format.TakesList filling.values := ⟨by decide, by decide, by decide⟩
  have done := Edit.succeeds_iff.mp ((execute_spelled_iff spelled ready).mpr taken)
  have counted := ((whole _ _ filling spelled ready (by decide)).mp done).2
  revert counted
  decide

end Session

end GpuScript
