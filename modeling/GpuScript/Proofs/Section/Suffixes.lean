import GpuScript.Proofs.Section.Filling
import GpuScript.Proofs.Section.Slots
import GpuScript.Proofs.Section.Truncation

/-! Bindings behind a colon. A slot takes the number of the digits at the front of the text there, so
that it refuses no text but an empty one and one whose number is no 32-bit word. -/
namespace GpuScript

namespace Reader

/-- The binding that a slot takes from the text behind a colon. -/
def suffixWord? (text : List Char) : Option Nat := (bindingOf? text).filter (· < wordLimit)

variable {words : Words} {text : List Char} {binding : Nat}

theorem suffixWord?_eq_some_iff : suffixWord? text = some binding ↔
    bindingOf? text = some binding ∧ binding < wordLimit := by
  rw [suffixWord?, Option.filter_eq_some_iff, decide_eq_true_eq]

/-- What is taken is the word that the text spells in digits, but where the digits of a word stand
before other letters. -/
theorem suffixWord?_eq_iff : suffixWord? text = wordOfDigits? text ↔
    (∀ letter ∈ text, letter.isDigit = true) ∨
      wordLimit ≤ Decimal.ofDigits (text.takeWhile Char.isDigit) := by
  by_cases digital : ∀ letter ∈ text, letter.isDigit = true
  · have whole : text.takeWhile Char.isDigit = text := List.takeWhile_eq_self_iff.mpr digital
    have all : text.all Char.isDigit = true := List.all_eq_true.mpr digital
    refine iff_of_true ?_ (.inl digital)
    cases text with
    | nil => rfl
    | cons letter text => simp [suffixWord?, bindingOf?, wordOfDigits?, whole, all, Option.filter]
  · have none : wordOfDigits? text = none := by
      rw [wordOfDigits?, if_neg]
      intro spelled
      simp only [Bool.and_eq_true, List.all_eq_true] at spelled
      exact digital spelled.1.2
    have filled : text.isEmpty = false := by
      cases text with
      | nil => exact absurd nofun digital
      | cons => rfl
    rw [none, or_iff_right digital, suffixWord?, bindingOf?, filled]
    simp

theorem run_slot_suffix (behind : words.head.suffix? = some text)
    (taken : suffixWord? text = some binding) (first : Nat) (command : String) :
    (slot first command).run words = .ok (⟨first, binding⟩, words.tail) := by
  obtain ⟨digits, bound⟩ := suffixWord?_eq_some_iff.mp taken
  exact run_slot_behind behind digits bound first command

private theorem run_slot_refused (behind : words.head.suffix? = some text)
    (refused : suffixWord? text = none) (first : Nat) (command : String) :
    ∃ fault, (slot first command).run words = .error fault := by
  cases ran : (slot first command).run words with
  | error fault => exact ⟨fault, rfl⟩
  | ok reading =>
    rcases slot_reads ran with ⟨other, binding, here, digits, bound, -, -⟩ | ⟨plain, -, -⟩
    · obtain rfl := Option.some.inj (behind.symm.trans here)
      rw [suffixWord?_eq_some_iff.mpr ⟨digits, bound⟩] at refused
      cases refused
    · rw [behind] at plain
      cases plain

private theorem run_comparator {name : String} {comparator : ProbeComparator}
    (named : words.head = .word name) (known : comparatorOf? name = some comparator) :
    Reader.comparator.run words = .ok (comparator, words.tail) := by
  refine bind_ok.mpr ⟨.word name, words.tail, named ▸ run_next words, ?_⟩
  dsimp only [Token.isWord, Token.text]
  rw [known]
  rfl

end Reader

/-- The commands that name a slot with a set; a probe names a format before it. -/
inductive SlotCommand where
  | storage
  | uniform
  | probe (isRelative : Bool) (format : String)

namespace SlotCommand

def keyword : SlotCommand → String
  | storage => "ssbo"
  | uniform => "uniform"
  | probe false _ => "probe"
  | probe true _ => "relative"

/-- The tokens between that word and the slot. -/
def lead : SlotCommand → List Token
  | storage => []
  | uniform => [.word "ubo"]
  | probe false format => [.word "ssbo", .word format]
  | probe true format => [.word "probe", .word "ssbo", .word format]

/-- The words of a statement lead up to the slot of a command. -/
private inductive Opens : SlotCommand → (words slot : Words) → Prop
  | storage (words : Words) : Opens .storage words words
  | uniform {words : Words} (ubo : words.head = .word "ubo") : Opens .uniform words words.tail
  | probe {words : Words} {format : String} (ssbo : words.head = .word "ssbo")
      (named : words.tail.head = .word format) :
    Opens (.probe false format) words words.tail.tail
  | relative {words : Words} {format : String} (probe : words.head = .word "probe")
      (ssbo : words.tail.head = .word "ssbo") (named : words.tail.tail.head = .word format) :
    Opens (.probe true format) words words.tail.tail.tail

private theorem exists_opens {command : SlotCommand} {words : Words} {rest : List Token}
    (tokens : words.tokens = command.lead ++ rest) :
    ∃ slot, command.Opens words slot ∧ slot.tokens = rest := by
  cases command with
  | storage => exact ⟨words, .storage words, tokens⟩
  | uniform =>
    obtain ⟨ubo, left⟩ := Words.head_of_tokens tokens
    exact ⟨_, .uniform ubo, left⟩
  | probe isRelative format =>
    cases isRelative with
    | false =>
      obtain ⟨ssbo, later⟩ := Words.head_of_tokens tokens
      obtain ⟨named, left⟩ := Words.head_of_tokens later
      exact ⟨_, .probe ssbo named, left⟩
    | true =>
      obtain ⟨probe, probed⟩ := Words.head_of_tokens tokens
      obtain ⟨ssbo, later⟩ := Words.head_of_tokens probed
      obtain ⟨named, left⟩ := Words.head_of_tokens later
      exact ⟨_, .relative probe ssbo named, left⟩

/-- What stands behind a slot is what the command needs, and the buffer of the slot takes it: a size,
data, or data to be compared. -/
inductive Ready (session : Session) (slot : BindingSlot) : SlotCommand → List Token → Prop
  | size {size : Token} {format : Format} (isInteger : size.isInteger = true)
      (takes : session.Takes slot format) : Ready session slot .storage [size]
  | data {name : String} {format : Format} {offset : Token} {values : List Token}
      (named : Format.ofDatum name = .ok format)
      (ready : session.Ready ⟨slot, format, offset, values⟩) (list : format.TakesList values) :
    Ready session slot .storage (.word "subdata" :: .word name :: offset :: values)
  | uniform {name : String} {format : Format} {offset : Token} {values : List Token}
      (named : Format.ofDatum name = .ok format)
      (ready : session.Ready ⟨slot, { format with layout := .std140 }, offset, values⟩)
      (list : Format.TakesList { format with layout := .std140 } values) :
    Ready session slot .uniform (.word name :: offset :: values)
  | probe {isRelative : Bool} {name comparison : String} {format : Format}
      {comparator : ProbeComparator} {offset : Token} {values : List Token}
      (named : Format.ofDatum name = .ok format)
      (bound : (session.script.bufferAt? session.pipelineId slot).isSome = true)
      (takes : session.Takes slot format) (isInteger : offset.isInteger = true)
      (known : Reader.comparatorOf? comparison = some comparator)
      (list : format.TakesList values) :
    Ready session slot (.probe isRelative name) (offset :: .word comparison :: values)

end SlotCommand

/-- The low bits of an integer are the number of its literal exactly where that is a word. -/
theorem Token.low_eq_value_iff {token : Token} {literal : List Char} (faithful : token.Faithful)
    (spelled : token.literal? = some literal) : (token.low : Int) = Literal.value literal ↔
      0 ≤ Literal.value literal ∧ Literal.value literal < wordLimit := by
  have bits := (faithful literal spelled).2
  rw [Literal.clamp] at bits
  rw [low, wordLimit]
  omega

namespace Session

variable {session : Session} {text : List Char} {binding : Nat} {id : Id Buffer}

/-- An edit fails and leaves all but the tokens at hand as it was. -/
def Stops (operation : Edit Session Unit) (session : Session) : Prop :=
  ∃ fault words, operation.apply session = (.error fault, { session with words })

theorem stops_read {Result : Type} {reader : Reader Result} {fault : Fault}
    (ran : reader.run session.words = .error fault) (next : Result → Edit Session Unit) :
    Stops (read reader >>= next) session :=
  ⟨fault, session.words, Edit.apply_bind_of_error (apply_read_of_error ran) next⟩

theorem Stops.after {Result : Type} {reader : Reader Result} {result : Result} {words : Words}
    {next : Result → Edit Session Unit} (ran : reader.run session.words = .ok (result, words))
    (stops : Stops (next result) { session with words }) : Stops (read reader >>= next) session := by
  rw [Stops, Edit.apply_bind_of_ok (apply_read_of_ok ran)]
  exact stops

theorem stops_slot (behind : session.words.head.suffix? = some text)
    (refused : Reader.suffixWord? text = none) (first : Nat) (command : String)
    (next : BindingSlot → Edit Session Unit) :
    Stops (read (Reader.slot first command) >>= next) session := by
  obtain ⟨fault, ran⟩ := Reader.run_slot_refused behind refused first command
  exact stops_read ran next

private theorem stops_storage (isInteger : session.words.head.isInteger = true)
    (behind : session.words.tail.head.suffix? = some text)
    (refused : Reader.suffixWord? text = none) : Stops storage session := by
  unfold storage
  rw [Stops, apply_here, apply_next_bind, Token.isEnd_of_isInteger isInteger, isInteger]
  exact @stops_slot session.advance text behind refused _ _ _

private theorem stops_uniform (ubo : session.words.head = .word "ubo")
    (isInteger : session.words.tail.head.isInteger = true)
    (behind : session.words.tail.tail.head.suffix? = some text)
    (refused : Reader.suffixWord? text = none) : Stops uniform session := by
  unfold uniform
  rw [Stops, apply_here, apply_next_bind, ubo]
  have integer : (Reader.integer "Invalid binding value for uniform ubo command").run
      session.advance.words = .ok (session.words.tail.head, session.words.tail.tail) :=
    Reader.run_integer isInteger
  exact Stops.after integer
    (@stops_slot session.advance.advance text behind refused _ _ _)

private theorem stops_probeStorage {name : String} (format : session.words.head = .word name)
    (isInteger : session.words.tail.head.isInteger = true)
    (behind : session.words.tail.tail.head.suffix? = some text)
    (refused : Reader.suffixWord? text = none) : Stops probeStorage session := by
  unfold probeStorage
  rw [Stops, Edit.apply_bind_of_ok (apply_line session), apply_next_bind, format]
  cases named : Format.ofDatum name with
  | error fault =>
    have unknown : (Reader.format name).run session.advance.words = .error fault := by
      rw [Reader.format, named]
      rfl
    exact stops_read unknown _
  | ok format =>
    have integer : (Reader.integer "Invalid binding value for probe ssbo command").run
        session.advance.words = .ok (session.words.tail.head, session.words.tail.tail) :=
      Reader.run_integer isInteger
    have known : (Reader.format name).run session.advance.words =
        .ok (format, session.advance.words) := Reader.run_format named
    exact Stops.after known (Stops.after integer
      (@stops_slot session.advance.advance text behind refused _ _ _))

private theorem stops_probe {isRelative : Bool} (ssbo : session.words.head = .word "ssbo")
    (stops : Stops probeStorage session.advance) : Stops (Session.probe isRelative) session := by
  unfold Session.probe
  rw [Stops, apply_next_bind, ssbo]
  exact stops

private theorem stops_relativeProbe (named : session.words.head = .word "probe")
    (stops : Stops (Session.probe true) session.advance) : Stops relativeProbe session := by
  unfold relativeProbe
  rw [Stops, apply_next_bind, named]
  exact stops

/-- A command stops at a slot whose text behind the colon is no binding. -/
private theorem stops_dispatch {command : SlotCommand} {slot : Words}
    (opens : command.Opens session.words slot) (isInteger : slot.head.isInteger = true)
    (behind : slot.tail.head.suffix? = some text) (refused : Reader.suffixWord? text = none) :
    Stops (dispatch command.keyword) session := by
  cases opens with
  | storage => exact stops_storage isInteger behind refused
  | uniform ubo => exact stops_uniform ubo isInteger behind refused
  | probe ssbo named =>
    exact stops_probe ssbo (@stops_probeStorage session.advance _ _ named isInteger behind refused)
  | relative probe ssbo named =>
    exact stops_relativeProbe probe (@stops_probe session.advance true ssbo
      (@stops_probeStorage session.advance.advance _ _ named isInteger behind refused))

/-- A command has been recorded that is about a slot. -/
private def RecordsAt (slot : BindingSlot) (before after : Session) : Prop :=
  ∃ command id, after.commands = before.commands ++ [command] ∧
    command.slotBuffer? = some (slot, id)

variable {final : Session} {slot : BindingSlot}

theorem slot_of_suffix {words left : Words} {first : Nat} {command : String}
    (ran : (Reader.slot first command).run words = .ok (slot, left))
    (behind : words.head.suffix? = some text) (taken : Reader.suffixWord? text = some binding) :
    slot = ⟨first, binding⟩ := by
  rw [Reader.run_slot_suffix behind taken] at ran
  exact (Prod.mk.inj (Except.ok.inj ran)).1.symm

/-- Neither finding or making a buffer nor editing buffers records a command. -/
theorem commands_of_bound {kind : BufferKind} {words : Words} {bound filled : Session}
    (binding : (bufferAt slot kind).apply { session with words } = (.ok id, bound))
    (edits : ∃ words script, filled = { bound with words, script } ∧
      bound.script.SamePlaces script) : filled.commands = session.commands := by
  obtain ⟨left, script, rfl, -⟩ := edits
  obtain ⟨-, rfl⟩ | ⟨-, -, -, rfl⟩ := bufferAt_parts binding
  · rfl
  · rfl

private theorem records_storage (done : storage.apply session = (.ok ⟨⟩, final))
    (behind : session.words.tail.head.suffix? = some text)
    (taken : Reader.suffixWord? text = some binding) :
    RecordsAt ⟨session.words.head.low, binding⟩ session final := by
  obtain ⟨-, slot, words, buffer, bound, filled, write, ran, making, body, rfl⟩ :=
    storage_parts done
  obtain rfl := slot_of_suffix ran behind taken
  rcases body with ⟨-, written, writing, rfl⟩ | ⟨-, sizing, rfl⟩
  · obtain ⟨-, format, -, filling⟩ := storageData_parts writing
    obtain ⟨left, script, rfl, places⟩ := fill_places filling
    have kept := commands_of_bound making ⟨left, script, rfl, places⟩
    exact ⟨_, buffer, congrArg (· ++ [_]) kept, rfl⟩
  · have kept := commands_of_bound making (storageSize_places sizing)
    exact ⟨_, buffer, congrArg (· ++ [_]) kept, rfl⟩

private theorem records_uniformBuffer {head : CommandHead}
    (done : (uniformBuffer head).apply session = (.ok ⟨⟩, final))
    (behind : session.words.tail.head.suffix? = some text)
    (taken : Reader.suffixWord? text = some binding) :
    RecordsAt ⟨session.words.head.low, binding⟩ session final := by
  obtain ⟨-, slot, words, buffer, bound, format, written, filled, ran, -, making, -, filling, rfl⟩ :=
    uniformBuffer_parts done
  obtain rfl := slot_of_suffix ran behind taken
  have kept := commands_of_bound making (fill_places filling)
  exact ⟨_, buffer, congrArg (· ++ [_]) kept, rfl⟩

private theorem records_probeStorage (done : probeStorage.apply session = (.ok ⟨⟩, final))
    (behind : session.words.tail.tail.head.suffix? = some text)
    (taken : Reader.suffixWord? text = some binding) :
    RecordsAt ⟨session.words.tail.head.low, binding⟩ session final := by
  obtain ⟨-, -, format, slot, slotted, buffer, agreed, comparator, values, between, words, -, ran,
    -, agreeing, -, -, -, rfl⟩ := probeStorage_parts done
  obtain rfl := slot_of_suffix ran behind taken
  obtain ⟨script, rfl, -⟩ := agreeOnFormat_places agreeing
  exact ⟨_, buffer, rfl, rfl⟩

private theorem records_probe {isRelative : Bool}
    (done : (Session.probe isRelative).apply session = (.ok ⟨⟩, final))
    (ssbo : session.words.head = .word "ssbo")
    (behind : session.words.tail.tail.tail.head.suffix? = some text)
    (taken : Reader.suffixWord? text = some binding) :
    RecordsAt ⟨session.words.tail.tail.head.low, binding⟩ session final := by
  obtain ⟨-, ⟨-, stored⟩ | ⟨other, -⟩⟩ := probe_ok done
  · exact records_probeStorage stored behind taken
  · rw [ssbo] at other
    exact absurd rfl other

/-- A command that succeeds is recorded at the slot that its tokens name. -/
private theorem records_dispatch {command : SlotCommand} {slot : Words}
    (done : (dispatch command.keyword).apply session = (.ok ⟨⟩, final))
    (opens : command.Opens session.words slot) (behind : slot.tail.head.suffix? = some text)
    (taken : Reader.suffixWord? text = some binding) :
    RecordsAt ⟨slot.head.low, binding⟩ session final := by
  cases opens with
  | storage => exact records_storage done behind taken
  | uniform ubo =>
    obtain ⟨-, ⟨-, done⟩ | ⟨other, -⟩⟩ := uniform_parts done
    · exact records_uniformBuffer done behind taken
    · rw [ubo] at other
      exact absurd rfl other
  | probe ssbo => exact records_probe done ssbo behind taken
  | relative _ ssbo =>
    obtain ⟨-, probed⟩ := relativeProbe_ok done
    exact records_probe probed ssbo behind taken

private theorem storageSize_succeeds {buffer : Buffer}
    (found : session.script.buffers.store.get? id = some buffer)
    (isInteger : session.words.head.isInteger = true)
    (ended : session.words.tail.head.isEnd = true) : (storageSize id).Succeeds session := by
  let sized : Buffer := { buffer with elementCount := session.words.head.low }
  let counting : Session :=
    { session.advance with script := session.script.setBuffer id sized }
  have counted : (onBuffer id (modify fun buffer =>
      { buffer with elementCount := session.words.head.low })).apply session.advance =
        (.ok ⟨⟩, counting) := onBuffer_modify _ found
  have present : counting.script.buffers.store.get? id = some sized := by
    change (session.script.setBuffer id sized).buffers.store.get? id = _
    rw [Script.get?_setBuffer, if_pos rfl, found]
    rfl
  have ends (session : Session) (ended : session.words.head.isEnd = true) :
      (read (Reader.expectEnd "Extra parameter for ssbo command")).Succeeds session :=
    read_succeeds_iff.mpr ⟨_, Reader.run_expectEnd ended _⟩
  unfold storageSize
  rw [Edit.succeeds_bind_of_ok (apply_next session), Token.isEnd_of_isInteger isInteger, isInteger]
  simp only [Bool.false_eq_true, if_false, Bool.not_true]
  rw [Edit.succeeds_bind_of_ok counted, Edit.succeeds_bind_of_ok (Edit.apply_get _),
    Store.requireBuffer_ok_iff.mpr present, Edit.succeeds_bind_of_ok (Edit.apply_ofExcept _ _)]
  split
  · rw [Edit.succeeds_bind_of_ok (onBuffer_modify _ present),
      Edit.succeeds_bind_of_ok (apply_keepFormat _ _)]
    exact ends _ ended
  · exact ends _ ended

theorem storage_succeeds_of_size {format : Format} {first second size : Token}
    (proper : session.words.Proper) (tokens : session.words.tokens = [first, second, size])
    (isInteger : first.isInteger = true) (behind : second.suffix? = some text)
    (taken : Reader.suffixWord? text = some binding) (isSize : size.isInteger = true)
    (takes : session.Takes ⟨first.low, binding⟩ format) : storage.Succeeds session := by
  obtain ⟨rfl, later⟩ := Words.head_of_tokens tokens
  obtain ⟨rfl, last⟩ := Words.head_of_tokens later
  obtain ⟨rfl, none⟩ := Words.head_of_tokens last
  let words := session.words.tail.tail
  have ended : words.tail.head.isEnd = true :=
    proper.tail.tail.tail.head_of_nil none
  obtain ⟨id, bound, buffer, done, kept, found, -⟩ :=
    bufferAt_of_takes { session with words } takes .storage
  have located : (headAt session.words.line).apply session = (.ok session.head, session) := rfl
  have slotRead : (read (Reader.slot session.words.head.low "ssbo command")).apply session.advance =
      (.ok ⟨session.words.head.low, binding⟩, { session with words }) :=
    apply_read_of_ok (Reader.run_slot_suffix behind taken _ _)
  have isWord : words.head.isWord = false := Token.isWord_of_isInteger isSize
  have plain : words.head.text ≠ "subdata" := fun named => by
    rw [Token.isWord_of_text (by rw [named]; decide)] at isWord
    cases isWord
  unfold storage
  rw [Edit.succeeds_bind_of_ok (apply_line session), Edit.succeeds_bind_of_ok located,
    Edit.succeeds_bind_of_ok (apply_next session), Token.isEnd_of_isInteger isInteger, isInteger]
  simp only [Bool.false_eq_true, if_false, Bool.not_true]
  rw [Edit.succeeds_bind_of_ok slotRead, Edit.succeeds_bind_of_ok (apply_peek _)]
  dsimp only
  rw [isWord, Bool.false_and, if_neg Bool.false_ne_true, Edit.succeeds_bind_of_ok done,
    if_neg plain, Edit.succeeds_bind_iff fun _ _ _ => record_succeeds _ _]
  have same : bound.words = words := kept
  exact storageSize_succeeds found (same ▸ isSize) (same ▸ ended)

theorem exists_buffer_of_takes {format : Format} (takes : session.Takes slot format)
    (bound : (session.script.bufferAt? session.pipelineId slot).isSome = true) :
    ∃ id buffer, session.script.bufferAt? session.pipelineId slot = some id ∧
      session.script.buffers.store.get? id = some buffer ∧ buffer.Agrees format := by
  obtain ⟨id, here⟩ := Option.isSome_iff_exists.mp bound
  unfold Takes at takes
  rw [here] at takes
  obtain ⟨buffer, found, agrees⟩ := takes
  exact ⟨id, buffer, here, found, agrees⟩

theorem probeStorage_succeeds {name comparison : String} {format : Format}
    {comparator : ProbeComparator} {first second offset : Token} {values : List Token}
    (tokens : session.words.tokens =
      .word name :: first :: second :: offset :: .word comparison :: values)
    (isInteger : first.isInteger = true) (behind : second.suffix? = some text)
    (taken : Reader.suffixWord? text = some binding)
    (named : Format.ofDatum name = .ok format)
    (bound : (session.script.bufferAt? session.pipelineId ⟨first.low, binding⟩).isSome = true)
    (takes : session.Takes ⟨first.low, binding⟩ format) (isOffset : offset.isInteger = true)
    (known : Reader.comparatorOf? comparison = some comparator)
    (list : format.TakesList values) : probeStorage.Succeeds session := by
  obtain ⟨word, left⟩ := Words.head_of_tokens tokens
  obtain ⟨rfl, later⟩ := Words.head_of_tokens left
  obtain ⟨rfl, behindSlot⟩ := Words.head_of_tokens later
  obtain ⟨rfl, compared⟩ := Words.head_of_tokens behindSlot
  obtain ⟨comparing, last⟩ := Words.head_of_tokens compared
  obtain ⟨id, buffer, here, found, agrees⟩ := exists_buffer_of_takes takes bound
  obtain ⟨pipeline, present, there⟩ := Option.bind_eq_some_iff.mp here
  let words := session.words.tail.tail.tail
  let slotted : Session := { session with words }
  obtain ⟨agreed, after, agreeing, kept, -⟩ :=
    @agreeOnFormat_of_agrees slotted id buffer format found agrees
      "probe format does not match buffer format"
  have formatRead : (read (Reader.format (Token.word name).text)).apply session.advance =
      (.ok format, session.advance) := apply_read_of_ok (Reader.run_format named)
  have integerRead : (read (Reader.integer "Invalid binding value for probe ssbo command")).apply
      session.advance = (.ok session.words.tail.head, session.advance.advance) :=
    apply_read_of_ok (Reader.run_integer isInteger)
  have slotRead : (read (Reader.slot session.words.tail.head.low "probe ssbo command")).apply
      session.advance.advance =
        (.ok ⟨session.words.tail.head.low, binding⟩, slotted) :=
    apply_read_of_ok (Reader.run_slot_suffix behind taken _ _)
  have pipelineRead : Session.pipeline.apply slotted = (.ok pipeline, slotted) :=
    apply_pipeline_of_some present
  have plain : ¬words.head.isWord = true := by
    rw [Token.isWord_of_isInteger isOffset]
    decide
  have same : agreed.words = words := kept
  let watching : Session := { agreed with script := agreed.script.registerFormat format }
  have keeping : (onScript (modify (·.registerFormat format))).apply agreed =
      (.ok ⟨⟩, watching) := rfl
  have offsetRead : (read (Reader.integer "Invalid offset for probe ssbo command")).apply watching =
      (.ok agreed.words.head, watching.advance) :=
    apply_read_of_ok (Reader.run_integer (show agreed.words.head.isInteger = true from
      same ▸ isOffset))
  have comparatorRead : (read Reader.comparator).apply watching.advance =
      (.ok comparator, watching.advance.advance) :=
    apply_read_of_ok (Reader.run_comparator (show agreed.words.tail.head = .word comparison from
      same ▸ comparing) known)
  have valuesRead : (read (Reader.values "probe ssbo" format)).Succeeds watching.advance.advance :=
    read_succeeds_iff.mpr (Reader.values_ok_iff.mpr
      (show format.TakesList agreed.words.tail.tail.tokens from by rwa [same, last]))
  unfold probeStorage
  rw [Edit.succeeds_bind_of_ok (apply_line session), Edit.succeeds_bind_of_ok (apply_next session),
    word, if_neg (show ¬(Token.word name).isEnd = true from Bool.false_ne_true),
    if_neg (show ¬(!(Token.word name).isWord) = true from Bool.false_ne_true),
    Edit.succeeds_bind_of_ok formatRead, Edit.succeeds_bind_of_ok integerRead,
    Edit.succeeds_bind_of_ok slotRead, Edit.succeeds_bind_of_ok (apply_peek _), if_neg plain,
    Edit.succeeds_bind_of_ok pipelineRead, there]
  dsimp only
  rw [Edit.succeeds_bind_of_ok agreeing, Edit.succeeds_bind_of_ok (Edit.apply_get agreed),
    Edit.succeeds_bind_of_ok keeping, Edit.succeeds_bind_of_ok offsetRead,
    Edit.succeeds_bind_of_ok comparatorRead, Edit.succeeds_bind_iff]
  · exact valuesRead
  · intro values after _
    rw [Edit.succeeds_bind_of_ok (Edit.apply_get after)]
    exact record_succeeds _ _

theorem probe_succeeds {isRelative : Bool} (ssbo : session.words.head = .word "ssbo")
    (succeeds : probeStorage.Succeeds session.advance) :
    (Session.probe isRelative).Succeeds session := by
  unfold Session.probe
  rw [Edit.succeeds_bind_of_ok (apply_next session), ssbo]
  exact succeeds

theorem relativeProbe_succeeds (probe : session.words.head = .word "probe")
    (succeeds : (Session.probe true).Succeeds session.advance) : relativeProbe.Succeeds session := by
  unfold relativeProbe
  rw [Edit.succeeds_bind_of_ok (apply_next session), probe]
  exact succeeds

/-- A command that is ready at the slot that its tokens name succeeds. -/
theorem dispatch_succeeds {command : SlotCommand} {words : Words} {first second : Token}
    {rest : List Token} (proper : words.Proper)
    (tokens : words.tokens = command.lead ++ first :: second :: rest)
    (isInteger : first.isInteger = true) (behind : second.suffix? = some text)
    (taken : Reader.suffixWord? text = some binding)
    (ready : command.Ready session ⟨first.low, binding⟩ rest) :
    (dispatch command.keyword).Succeeds { session with words } := by
  let slotted : Session := { session with words }
  obtain ⟨digits, bound⟩ := Reader.suffixWord?_eq_some_iff.mp taken
  have spelled : BindingSlot.Spelled ⟨first.low, binding⟩ (first :: second :: rest) rest :=
    .both isInteger behind digits bound
  cases ready with
  | size isSize takes =>
    exact storage_succeeds_of_size proper tokens isInteger behind taken isSize takes
  | data named ready list =>
    have filled := Format.inputCount_ne_zero (Format.type_of_ofDatum named) ready.places.sized
    have still : slotted.Ready ⟨⟨first.low, binding⟩, _, _, _⟩ := ⟨ready.takes, ready.places⟩
    exact (storage_succeeds_iff (show BindingSlot.Spelled _ words.tokens _ from tokens ▸ spelled)
      named still filled).mpr list
  | @uniform name format offset values named ready list =>
    have laid : ({ format with layout := .std140 } : Format).inputCount ≠ 0 :=
      Format.inputCount_ne_zero (show _ = some format.type from Format.type_of_ofDatum named)
        ready.places.sized
    have still : slotted.Ready ⟨⟨first.low, binding⟩, _, _, _⟩ := ⟨ready.takes, ready.places⟩
    exact (uniform_succeeds_iff tokens spelled named rfl still laid).mpr list
  | @probe isRelative name comparison format comparator offset values named here takes isOffset
      known list =>
    cases isRelative with
    | false =>
      obtain ⟨ssbo, left⟩ := Words.head_of_tokens tokens
      have stored : probeStorage.Succeeds slotted.advance :=
        probeStorage_succeeds left isInteger behind taken named here takes isOffset known list
      exact probe_succeeds ssbo stored
    | true =>
      obtain ⟨probe, probed⟩ := Words.head_of_tokens tokens
      obtain ⟨ssbo, left⟩ := Words.head_of_tokens probed
      have stored : probeStorage.Succeeds slotted.advance.advance :=
        probeStorage_succeeds left isInteger behind taken named here takes isOffset known list
      have probes : (Session.probe true).Succeeds slotted.advance := probe_succeeds ssbo stored
      exact relativeProbe_succeeds probe probes

/-- Behind the set of a slot stands a text after a colon. Where that holds no binding the statement
fails and leaves all but the tokens at hand as it was. Where it does, a command that is ready in all
else succeeds, and each that succeeds is recorded at that set and binding. The binding is the word
that the text spells in digits, except where the digits of a word stand before other letters; and the
set is the number that its literal spells exactly where that is a word. -/
theorem execute_suffix {statement : Statement} {command : SlotCommand} {first second : Token}
    {rest : List Token} (faithful : (wordsOf statement).Faithful)
    (keyword : statement.first.token = .word command.keyword)
    (tokens : (wordsOf statement).tokens = command.lead ++ first :: second :: rest)
    (isInteger : first.isInteger = true) (behind : second.suffix? = some text) :
    let outcome := (execute statement).apply session
    (Reader.suffixWord? text = none →
        ∃ fault words, outcome = (.error fault, { session with words })) ∧
      (∀ binding, Reader.suffixWord? text = some binding →
        (outcome.1 = .ok ⟨⟩ → RecordsAt ⟨first.low, binding⟩ session outcome.2) ∧
          (command.Ready session ⟨first.low, binding⟩ rest → outcome.1 = .ok ⟨⟩)) ∧
      (Reader.suffixWord? text = wordOfDigits? text ↔
        (∀ letter ∈ text, letter.isDigit = true) ∨
          wordLimit ≤ Decimal.ofDigits (text.takeWhile Char.isDigit)) ∧
      ∀ literal ∈ first.literal?, ((first.low : Int) = Literal.value literal ↔
        0 ≤ Literal.value literal ∧ Literal.value literal < wordLimit) := by
  intro outcome
  obtain ⟨slot, opens, left⟩ := SlotCommand.exists_opens tokens
  obtain ⟨here, later⟩ := Words.head_of_tokens left
  obtain ⟨there, -⟩ := Words.head_of_tokens later
  refine ⟨fun refused => ?_, fun binding taken => ⟨fun done => ?_, fun ready => ?_⟩,
    Reader.suffixWord?_eq_iff, fun literal spelled => ?_⟩
  · have stops : Stops _ { session with words := wordsOf statement } :=
      stops_dispatch opens (here ▸ isInteger) (there ▸ behind) refused
    obtain ⟨fault, words, ran⟩ := stops
    refine ⟨fault.atLine statement.first.line, words, ?_⟩
    change (execute statement).apply session = _
    rw [apply_execute, apply_perform_word keyword, ran]
    rfl
  · obtain ⟨⟨⟩, final, ran⟩ := (execute_succeeds_iff keyword).mp (Edit.succeeds_iff.mpr done)
    have reached : outcome.2 = final := by
      change ((execute statement).apply session).2 = _
      rw [apply_execute, apply_perform_word keyword, ran]
    have recorded := records_dispatch ran opens (there ▸ behind) taken
    rw [reached, ← here]
    exact recorded
  · exact Edit.succeeds_iff.mp ((execute_succeeds_iff keyword).mpr
      (dispatch_succeeds faithful.toProper tokens isInteger behind taken ready))
  · exact Token.low_eq_value_iff (faithful.tokens first (tokens ▸ by simp)) spelled

/-- A set and a binding are recorded as they are written. -/
theorem execute_suffix_set :
    let session : Session := .start SectionTarget.compute.script ⟨0⟩
    let statement : Statement := ⟨⟨.word "ssbo", 1⟩,
      [.integer 1 false "1", .word ":2", .integer 8 false "8"].map (⟨·, 1⟩), ⟨.endOfLine, 2⟩⟩
    Statement.ofText "ssbo 1:2 8\n" 1 = [statement] ∧
      ((execute statement).apply session).1 = .ok ⟨⟩ ∧
      RecordsAt ⟨1, 2⟩ session ((execute statement).apply session).2 := by
  intro session statement
  have read : Statement.ofText "ssbo 1:2 8\n" 1 = [statement] := by decide +kernel
  have faithful : (wordsOf statement).Faithful := faithful_wordsOf (read ▸ List.mem_cons_self)
  have taken : Reader.suffixWord? ['2'] = some 2 := by decide
  have ready : SlotCommand.storage.Ready session ⟨1, 2⟩ [.integer 8 false "8"] :=
    .size rfl (takes_compute ⟨1, 2⟩ .signedByte)
  have behind : (Token.word ":2").suffix? = some ['2'] := by decide
  obtain ⟨-, accepted, -⟩ := @execute_suffix session ['2'] statement .storage _ _ _ faithful rfl rfl
    rfl behind
  obtain ⟨records, succeeds⟩ := accepted 2 taken
  exact ⟨read, succeeds ready, records (succeeds ready)⟩

/-- A letter behind the colon is passed over, and the slot is the one of binding zero. -/
theorem execute_suffix_letter :
    let script := SectionTarget.compute.script
    let text := "ssbo 0:x 8\n"
    (Statement.ofText text 1).map (fun statement => (wordsOf statement).tokens) =
        [[.integer 0 false "0", .word ":x", .integer 8 false "8"]] ∧
      wordOfDigits? ['x'] = none ∧ (script.readSection ⟨0⟩ 1 text).1 = .ok ⟨⟩ ∧
      (script.readSection ⟨0⟩ 1 text).2.commands.map Command.slotBuffer? =
        [some (⟨0, 0⟩, ⟨0⟩)] := by
  decide +kernel

end Session

end GpuScript
