import GpuScript.Proofs.Buffer.Sizes
import GpuScript.Proofs.Section.Inversion

namespace GpuScript

/-- The buffer that is bound at a slot of a pipeline. -/
def Script.bufferAt? (script : Script) (id : Id Pipeline) (slot : BindingSlot) :
    Option (Id Buffer) :=
  (script.pipelines.get? id).bind (·.bufferAt? slot)

namespace Session

variable {session final : Session} {id : Id Buffer} {format : Format}

def recorded (session : Session) (command : Command) : Session :=
  { session with commands := session.commands ++ [command] }

theorem onBuffer_ok {Result : Type} {operation : Edit Buffer Result} {result : Result}
    (done : (onBuffer id operation).apply session = (.ok result, final)) :
    ∃ buffer after, session.script.buffers.store.get? id = some buffer ∧
      operation.apply buffer = (.ok result, after) ∧
      final = { session with script := session.script.setBuffer id after } := by
  rw [apply_onBuffer, Store.requireBuffer] at done
  cases present : session.script.buffers.store.get? id with
  | none =>
    rw [present] at done
    cases done
  | some buffer =>
    rw [present] at done
    obtain ⟨outcome, reached⟩ := Prod.mk.inj done
    exact ⟨buffer, (operation.apply buffer).2, rfl, Prod.ext outcome rfl, reached.symm⟩

/-- A buffer that is made comes after all others. -/
theorem makeBuffer_parts (done : makeBuffer.apply session = (.ok id, final)) :
    id = session.script.buffers.store.nextId ∧
      final = { session with script := session.script.pushBuffer session.freshBuffer } := by
  rw [apply_makeBuffer] at done
  split at done
  · cases done
  · cases done
    exact ⟨rfl, rfl⟩

/-- A slot has a buffer already, or it gets one that is made for it. -/
theorem bufferAt_parts {slot : BindingSlot} {kind : BufferKind}
    (done : (bufferAt slot kind).apply session = (.ok id, final)) :
    (session.script.bufferAt? session.pipelineId slot = some id ∧ final = session) ∨
      session.script.bufferAt? session.pipelineId slot = none ∧
        (session.script.pipelines.get? session.pipelineId).isSome ∧
        id = session.script.buffers.store.nextId ∧
        final = { session with
          script := (session.script.pushBuffer session.freshBuffer).mapPipeline
            session.pipelineId fun pipeline =>
              (pipeline.clearBuffers slot).addBuffer { buffer := id, kind, slot } } := by
  unfold bufferAt at done
  obtain ⟨pipeline, present, done⟩ := pipeline_bind_ok done
  have here : session.script.bufferAt? session.pipelineId slot = pipeline.bufferAt? slot := by
    rw [Script.bufferAt?, present, Option.bind_some]
  rw [here, present]
  split at done
  · rename_i found
    cases done
    exact .inl ⟨found, rfl⟩
  · rename_i free
    obtain ⟨made, between, making, done⟩ := Edit.bind_ok.mp done
    obtain ⟨rfl, rfl⟩ := makeBuffer_parts making
    obtain ⟨_, bound, binding, done⟩ := Edit.bind_ok.mp done
    cases done
    rw [apply_changePipeline] at binding
    split at binding
    · cases binding
      exact .inr ⟨free, rfl, rfl, rfl⟩
    · cases binding

/-- A buffer has the format that is agreed on for its own already, or it gets it for its own. -/
theorem agreeOnFormat_parts {rule : String}
    (done : (agreeOnFormat id format rule).apply session = (.ok ⟨⟩, final)) :
    ∃ buffer, session.script.buffers.store.get? id = some buffer ∧
      ((buffer.ownFormat? = some format ∧ final = session) ∨
        buffer.ownFormat? = none ∧ final = { session with
          script := (session.script.setBuffer id (buffer.withFormat format)).pushFormat
            format }) := by
  unfold agreeOnFormat at done
  rw [Edit.apply_bind_of_ok (Edit.apply_get session)] at done
  obtain ⟨buffer, found, done⟩ := Edit.bind_ofExcept_ok done
  have present := Store.requireBuffer_ok_iff.mp found
  refine ⟨buffer, present, ?_⟩
  rw [← Buffer.isSome_ownFormat?] at done
  split at done
  · rename_i own
    obtain ⟨given, kept⟩ := Option.isSome_iff_exists.mp own
    split at done
    · cases done
    · rename_i same
      cases done
      rw [(Buffer.ownFormat?_eq_some_iff.mp kept).1, Decidable.not_not] at same
      exact .inl ⟨kept.trans same, rfl⟩
  · rename_i free
    obtain ⟨_, between, changing, done⟩ := Edit.bind_ok.mp done
    obtain ⟨other, after, there, changed, rfl⟩ := onBuffer_ok changing
    obtain rfl := Option.some.inj (present.symm.trans there)
    cases changed
    cases done
    exact .inr ⟨Option.not_isSome_iff_eq_none.mp free, rfl⟩

/-- A declared size is an integer at the end of its statement. A buffer without a format gets one
for want of another. -/
theorem storageSize_parts (done : (storageSize id).apply session = (.ok ⟨⟩, final)) :
    session.words.head.isInteger = true ∧ session.words.tail.head.isEnd = true ∧
      ∃ buffer sized words, session.script.buffers.store.get? id = some buffer ∧
        sized = { buffer with elementCount := session.words.head.low } ∧
        ((buffer.format.isSome ∧ final = { session with
            words, script := session.script.setBuffer id sized }) ∨
          buffer.format = none ∧ final = { session with
            words
            script := ((session.script.setBuffer id sized).setBuffer id
              { sized.withFormat .signedByte with formatIsDefault := true }).pushFormat
                .signedByte }) := by
  unfold storageSize at done
  rw [apply_next_bind] at done
  obtain ⟨-, done⟩ := guard_ok (refuses_refuseAt _ _) done
  obtain ⟨isInteger, done⟩ := guard_ok (refuses_refuseAt _ _) done
  obtain ⟨_, counted, counting, done⟩ := Edit.bind_ok.mp done
  obtain ⟨buffer, after, present, changed, rfl⟩ := onBuffer_ok counting
  cases changed
  rw [Edit.apply_bind_of_ok (Edit.apply_get _)] at done
  obtain ⟨sized, found, done⟩ := Edit.bind_ofExcept_ok done
  have there := Store.requireBuffer_ok_iff.mp found
  have same : sized = { buffer with elementCount := session.words.head.low } := by
    change (session.script.setBuffer id _).buffers.store.get? id = _ at there
    rw [Script.get?_setBuffer, if_pos rfl,
      show session.script.buffers.store.get? id = _ from present] at there
    exact (Option.some.inj there).symm
  subst same
  split at done
  · rename_i absent
    obtain ⟨_, picked, picking, done⟩ := Edit.bind_ok.mp done
    obtain ⟨other, after, again, changed, rfl⟩ := onBuffer_ok picking
    obtain rfl := Option.some.inj (there.symm.trans again)
    cases changed
    rw [Edit.apply_bind_of_ok (apply_keepFormat _ _)] at done
    obtain ⟨words, reading, rfl⟩ := read_ok done
    exact ⟨by simpa using isInteger, Reader.expectEnd_ok reading, buffer, _, words, present, rfl,
      .inr ⟨Option.isNone_iff_eq_none.mp absent, rfl⟩⟩
  · rename_i given
    obtain ⟨words, reading, rfl⟩ := read_ok done
    exact ⟨by simpa using isInteger, Reader.expectEnd_ok reading, buffer, _, words, present, rfl,
      .inl ⟨Option.isSome_iff_ne_none.mpr (by simpa using given), rfl⟩⟩

/-- What comes after a format in a write: an offset and values, for a buffer that agrees on the
format. -/
def fill (rules : Reader.OffsetRules) (command : String) (id : Id Buffer) (format : Format) :
    Edit Session (Nat × List Value) := do
  agreeOnFormat id format writeFormatRule
  let offset ← read (Reader.offset rules format)
  let values ← read (Reader.values command format)
  onBuffer id (Buffer.recordSize values offset)
  return (offset, values)

/-- A write agrees on its format, then reads its offset and its values, and records the size that
they need. -/
theorem fill_parts {rules : Reader.OffsetRules} {command : String} {written : Nat × List Value}
    (done : (fill rules command id format).apply session = (.ok written, final)) :
    ∃ agreed between words,
      (agreeOnFormat id format writeFormatRule).apply session = (.ok ⟨⟩, agreed) ∧
      (Reader.offset rules format).run agreed.words = .ok (written.1, between) ∧
      (Reader.values command format).run between = .ok (written.2, words) ∧
      (onBuffer id (Buffer.recordSize written.2 written.1)).apply { agreed with words } =
        (.ok ⟨⟩, final) := by
  unfold fill at done
  obtain ⟨_, agreed, agreeing, done⟩ := Edit.bind_ok.mp done
  obtain ⟨offset, between, offsetRead, done⟩ := bind_read_ok done
  obtain ⟨values, words, valuesRead, done⟩ := bind_read_ok done
  obtain ⟨_, sized, recording, done⟩ := Edit.bind_ok.mp done
  cases done
  exact ⟨agreed, between, words, agreeing, offsetRead, valuesRead, recording⟩

/-- Behind `subdata` stands the name of a format, and then what a write needs. -/
theorem storageData_parts {written : Nat × List Value}
    (done : (storageData id).apply session = (.ok written, final)) :
    session.words.head.isWord = true ∧
      ∃ format, Format.ofDatum session.words.head.text = .ok format ∧
        (fill Reader.ssboOffset "ssbo" id format).apply session.advance =
          (.ok written, final) := by
  unfold storageData at done
  rw [apply_next_bind] at done
  obtain ⟨isWord, done⟩ := guard_ok (refuses_refuseAt _ _) done
  obtain ⟨format, words, named, done⟩ := bind_read_ok done
  obtain ⟨known, rfl⟩ := Reader.format_ok named
  exact ⟨by simpa using isWord, format, known, done⟩

/-- A storage command reads a slot, finds or makes its buffer, and then fills or sizes it. -/
theorem storage_parts (done : storage.apply session = (.ok ⟨⟩, final)) :
    session.words.head.isInteger = true ∧ ∃ slot words buffer bound filled write,
      (Reader.slot session.words.head.low "ssbo command").run session.words.tail =
        .ok (slot, words) ∧
      (bufferAt slot .storage).apply { session with words } = (.ok buffer, bound) ∧
      ((words.head.text = "subdata" ∧ ∃ written,
          (storageData buffer).apply bound.advance = (.ok written, filled) ∧
          write = { role := .ssbo, buffer, slot, isSubdata := true
                    offset := written.1, values := written.2 }) ∨
        words.head.text ≠ "subdata" ∧
          (storageSize buffer).apply bound = (.ok ⟨⟩, filled) ∧
          write = { role := .ssbo, buffer, slot }) ∧
      final = filled.recorded (.buffer session.head write) := by
  unfold storage at done
  rw [apply_here, apply_next_bind] at done
  obtain ⟨-, done⟩ := guard_ok (refuses_refuse _) done
  obtain ⟨isInteger, done⟩ := guard_ok (refuses_refuse _) done
  obtain ⟨slot, words, slotted, done⟩ := bind_read_ok done
  rw [Edit.apply_bind_of_ok (apply_peek _)] at done
  obtain ⟨-, done⟩ := guard_ok (refuses_refuseAt _ _) done
  obtain ⟨buffer, bound, binding, done⟩ := Edit.bind_ok.mp done
  refine ⟨by simpa using isInteger, slot, words, buffer, bound, ?_⟩
  split at done
  · rename_i subdata
    rw [apply_next_bind] at done
    obtain ⟨written, filled, writing, done⟩ := Edit.bind_ok.mp done
    cases done
    exact ⟨filled, _, slotted, binding, .inl ⟨subdata, written, writing, rfl⟩, rfl⟩
  · rename_i size
    obtain ⟨_, filled, sizing, done⟩ := Edit.bind_ok.mp done
    cases done
    exact ⟨filled, _, slotted, binding, .inr ⟨size, sizing, rfl⟩, rfl⟩

/-- A uniform buffer command reads a slot, finds or makes its buffer, and fills it with values of a
format that is laid out as uniform buffers are. -/
theorem uniformBuffer_parts {head : CommandHead}
    (done : (uniformBuffer head).apply session = (.ok ⟨⟩, final)) :
    session.words.head.isInteger = true ∧ ∃ slot words buffer bound format written filled,
      (Reader.slot session.words.head.low "uniform ubo command").run session.words.tail =
        .ok (slot, words) ∧
      words.head.isWord = true ∧
      (bufferAt slot .uniform).apply { session with words := words.tail } = (.ok buffer, bound) ∧
      Format.ofDatum words.head.text = .ok format ∧
      (fill Reader.uniformOffset "uniform" buffer { format with layout := .std140 }).apply bound =
        (.ok written, filled) ∧
      final = filled.recorded (.buffer head
        { role := .uniform, buffer, slot, offset := written.1, values := written.2 }) := by
  unfold uniformBuffer at done
  obtain ⟨first, between, integer, done⟩ := bind_read_ok done
  obtain ⟨rfl, rfl, isInteger⟩ := Reader.integer_ok integer
  obtain ⟨slot, words, slotted, done⟩ := bind_read_ok done
  rw [apply_next_bind] at done
  obtain ⟨isWord, done⟩ := guard_ok (refuses_refuseAt _ _) done
  obtain ⟨buffer, bound, binding, done⟩ := Edit.bind_ok.mp done
  obtain ⟨format, left, named, done⟩ := bind_read_ok done
  obtain ⟨known, rfl⟩ := Reader.format_ok named
  obtain ⟨written, filled, writing, done⟩ := Edit.bind_ok.mp done
  cases done
  exact ⟨isInteger, slot, words, buffer, bound, format, written, filled, slotted,
    by simpa using isWord, binding, known, writing, rfl⟩

/-- Push constants are filled into a buffer that is made for them, which then holds them. -/
theorem pushConstants_parts {head : CommandHead} {typeName : String}
    (done : (pushConstants head typeName).apply session = (.ok ⟨⟩, final)) :
    ∃ buffer made format written filled held,
      makeBuffer.apply session = (.ok buffer, made) ∧
      Format.ofDatum typeName = .ok format ∧
      (fill Reader.uniformOffset "uniform" buffer format).apply made = (.ok written, filled) ∧
      (onBuffer buffer (Buffer.setDataAt written.2 written.1)).apply filled = (.ok ⟨⟩, held) ∧
      final = held.recorded (.buffer head { role := .pushConstant, buffer
                                            offset := written.1 }) := by
  unfold pushConstants at done
  obtain ⟨buffer, made, making, done⟩ := Edit.bind_ok.mp done
  obtain ⟨format, words, named, done⟩ := bind_read_ok done
  obtain ⟨known, rfl⟩ := Reader.format_ok named
  obtain ⟨written, filled, writing, done⟩ := Edit.bind_ok.mp done
  obtain ⟨_, held, holding, done⟩ := Edit.bind_ok.mp done
  cases done
  exact ⟨buffer, made, format, written, filled, held, making, known, writing, holding, rfl⟩

/-- What follows `uniform` is the word `ubo`, or the name of a format for push constants. -/
theorem uniform_parts (done : uniform.apply session = (.ok ⟨⟩, final)) :
    session.words.head.isWord = true ∧
      ((session.words.head.text = "ubo" ∧
          (uniformBuffer session.head).apply session.advance = (.ok ⟨⟩, final)) ∨
        session.words.head.text ≠ "ubo" ∧
          (pushConstants session.head session.words.head.text).apply session.advance =
            (.ok ⟨⟩, final)) := by
  unfold uniform at done
  rw [apply_here, apply_next_bind] at done
  obtain ⟨-, done⟩ := guard_ok (refuses_refuseAt _ _) done
  obtain ⟨isWord, done⟩ := guard_ok (refuses_refuseAt _ _) done
  refine ⟨by simpa using isWord, ?_⟩
  split at done
  · rename_i named
    exact .inl ⟨named, done⟩
  · rename_i other
    exact .inr ⟨other, done⟩

/-- A probe of a storage buffer reads a format and a slot, agrees on the format with the buffer that
is there, keeps the format, and reads an offset, a comparison and values. -/
theorem probeStorage_parts (done : probeStorage.apply session = (.ok ⟨⟩, final)) :
    session.words.head.isWord = true ∧ session.words.tail.head.isInteger = true ∧
      ∃ format slot slotted buffer agreed comparator values between words,
        Format.ofDatum session.words.head.text = .ok format ∧
        (Reader.slot session.words.tail.head.low "probe ssbo command").run
          session.words.tail.tail = .ok (slot, slotted) ∧
        session.script.bufferAt? session.pipelineId slot = some buffer ∧
        (agreeOnFormat buffer format "probe format does not match buffer format").apply
          { session with words := slotted } = (.ok ⟨⟩, agreed) ∧
        agreed.words.head.isInteger = true ∧
        Reader.comparator.run agreed.words.tail = .ok (comparator, between) ∧
        (Reader.values "probe ssbo" format).run between = .ok (values, words) ∧
        final = { agreed with
          script := agreed.script.registerFormat format
          words
          commands := agreed.commands ++ [.probeStorage session.words.line
            { buffer, tolerances := agreed.tolerances, comparator, slot
              offset := agreed.words.head.low, format := agreed.script.formats.nextId
              values }] } := by
  unfold probeStorage at done
  rw [Edit.apply_bind_of_ok (apply_line _), apply_next_bind] at done
  obtain ⟨-, done⟩ := guard_ok (refuses_refuse _) done
  obtain ⟨isWord, done⟩ := guard_ok (refuses_refuseAt _ _) done
  obtain ⟨format, named, formatRead, done⟩ := bind_read_ok done
  obtain ⟨known, rfl⟩ := Reader.format_ok formatRead
  obtain ⟨first, firstLeft, integer, done⟩ := bind_read_ok done
  obtain ⟨rfl, rfl, isInteger⟩ := Reader.integer_ok integer
  obtain ⟨slot, slotted, slotRead, done⟩ := bind_read_ok done
  rw [Edit.apply_bind_of_ok (apply_peek _)] at done
  obtain ⟨-, done⟩ := guard_ok (refuses_refuseAt _ _) done
  obtain ⟨pipeline, present, done⟩ := pipeline_bind_ok done
  split at done
  · exact absurd done (refuses_throw _ _ _ _)
  · rename_i buffer bound
    obtain ⟨_, agreed, agreeing, done⟩ := Edit.bind_ok.mp done
    rw [Edit.apply_bind_of_ok (Edit.apply_get _)] at done
    obtain ⟨_, kept, keeping, done⟩ := Edit.bind_ok.mp done
    cases keeping
    obtain ⟨offset, offsetLeft, offsetRead, done⟩ := bind_read_ok done
    obtain ⟨rfl, rfl, offsetInteger⟩ := Reader.integer_ok offsetRead
    obtain ⟨comparator, between, compared, done⟩ := bind_read_ok done
    obtain ⟨values, left, valuesRead, done⟩ := bind_read_ok done
    rw [Edit.apply_bind_of_ok (Edit.apply_get _)] at done
    cases done
    have found : session.script.bufferAt? session.pipelineId slot = some buffer := by
      rw [Script.bufferAt?, show session.script.pipelines.get? session.pipelineId = _ from present]
      exact bound
    exact ⟨by simpa using isWord, isInteger, format, slot, slotted, buffer, agreed, comparator,
      values, between, left, known, slotRead, found, agreeing, offsetInteger, compared,
      valuesRead, rfl⟩

end Session

end GpuScript
