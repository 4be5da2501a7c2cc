import GpuScript.Proofs.Section.Parts

namespace GpuScript

/-- The buffer that a command changes the sizes of and how, where tokens followed the first one of
its statement. -/
def Command.sizeChange? (others : List Cursor.Lexeme) : Command → Option (Id Buffer × SizeChange)
  | .buffer _ write =>
    match write.role, write.isSubdata with
    | .ssbo, false =>
      some (write.buffer, .declared ((others.getLast?.map (·.token.low)).getD 0))
    | .ssbo, true | .uniform, _ =>
      some (write.buffer, .wrote write.offset write.values.length)
    | .pushConstant, _ => some (write.buffer, .pushed write.offset (others.length - 2))
    | _, _ => none
  | _ => none

namespace Script

def sizes (script : Script) (id : Id Buffer) : Sizes :=
  ((script.buffers.store.get? id).map Buffer.sizes).getD {}

def formatOf? (script : Script) (id : Id Buffer) : Option Format :=
  (script.buffers.store.get? id).bind Buffer.format

/-- The format of its own that a buffer has. -/
def ownFormat? (script : Script) (id : Id Buffer) : Option Format :=
  (script.buffers.store.get? id).bind Buffer.ownFormat?

/-- One script has become another: the sizes of buffers have changed in a way, and formats have been
kept, for good those of their own and those that commands refer to. -/
structure Evolves (change : Id Buffer → Sizes → Sizes) (before after : Script) : Prop where
  sizes : ∀ id, after.sizes id = change id (before.sizes id)
  given : ∀ id, (before.formatOf? id).isSome → (after.formatOf? id).isSome
  own : ∀ id format, before.ownFormat? id = some format → after.ownFormat? id = some format
  registered : ∀ id format, before.formats.get? id = some format →
    after.formats.get? id = some format

/-- One script has become another with the sizes of its buffers as they were. -/
abbrev Settled (before after : Script) : Prop := Evolves (fun _ sizes => sizes) before after

def only (id : Id Buffer) (change : Sizes → Sizes) (other : Id Buffer) (sizes : Sizes) : Sizes :=
  if other = id then change sizes else sizes

theorem only_id (id : Id Buffer) : only id (fun sizes => sizes) = fun _ sizes => sizes := by
  funext other sizes
  exact ite_self _

private theorem only_only (id : Id Buffer) (first next : Sizes → Sizes) :
    (fun other sizes => only id next other (only id first other sizes)) =
      only id fun sizes => next (first sizes) := by
  funext other sizes
  unfold only
  split <;> rfl

theorem Settled.refl (script : Script) : Settled script script :=
  ⟨fun _ => rfl, fun _ given => given, fun _ _ own => own, fun _ _ kept => kept⟩

theorem Evolves.trans {first next : Id Buffer → Sizes → Sizes} {before between after : Script}
    (left : Evolves first before between) (right : Evolves next between after) :
    Evolves (fun id sizes => next id (first id sizes)) before after where
  sizes id := by rw [right.sizes, left.sizes]
  given id given := right.given id (left.given id given)
  own id format own := right.own id format (left.own id format own)
  registered id format kept := right.registered id format (left.registered id format kept)

/-- A command has changed the sizes of a buffer, which has a format then, and one of its own if
values were written. -/
structure Undergoes (id : Id Buffer) (change : SizeChange) (before after : Script) : Prop where
  given : (after.formatOf? id).isSome
  own : change.isWrite = true →
    ∃ format, after.ownFormat? id = some format ∧ change.Aligned format
  evolves : ∀ format, (change.isWrite = true → after.ownFormat? id = some format) →
    Evolves (only id (change.apply format)) before after

theorem Undergoes.exists_evolves {id : Id Buffer} {change : SizeChange} {before after : Script}
    (changed : Undergoes id change before after) :
    ∃ format, Evolves (only id (change.apply format)) before after := by
  cases writes : change.isWrite with
  | true =>
    obtain ⟨format, own, -⟩ := changed.own writes
    exact ⟨format, changed.evolves format fun _ => own⟩
  | false =>
    refine ⟨.signedByte, changed.evolves _ fun same => ?_⟩
    rw [writes] at same
    cases same

theorem Settled.undergoes {id : Id Buffer} {change : SizeChange} {before between after : Script}
    (settled : Settled before between) (changed : Undergoes id change between after) :
    Undergoes id change before after where
  given := changed.given
  own := changed.own
  evolves format own := settled.trans (changed.evolves format own)

/-- A write that is carried out makes the buffer count the elements that hold it. -/
theorem Undergoes.pushed {id : Id Buffer} {offset values : Nat} {format : Format}
    {before between after : Script} (wrote : Undergoes id (.wrote offset values) before between)
    (own : between.ownFormat? id = some format)
    (grown : Evolves (only id (·.hold format offset values)) between after) :
    Undergoes id (.pushed offset values) before after := by
  have kept := grown.own id format own
  refine ⟨grown.given id wrote.given, fun _ => ?_, fun other same => ?_⟩
  · obtain ⟨given, present, aligned⟩ := wrote.own rfl
    obtain rfl := Option.some.inj (own.symm.trans present)
    exact ⟨format, kept, aligned⟩
  · obtain rfl := Option.some.inj (kept.symm.trans (same rfl))
    have both := (wrote.evolves format fun _ => own).trans grown
    rw [only_only] at both
    exact both

theorem formatOf?_of_ownFormat? {script : Script} {id : Id Buffer} {format : Format}
    (own : script.ownFormat? id = some format) : script.formatOf? id = some format := by
  obtain ⟨buffer, present, kept⟩ := Option.bind_eq_some_iff.mp own
  rw [formatOf?, present]
  exact (Buffer.ownFormat?_eq_some_iff.mp kept).1

theorem evolves_setBuffer {script : Script} {id : Id Buffer} {buffer after : Buffer}
    {change : Sizes → Sizes} (present : script.buffers.store.get? id = some buffer)
    (changed : after.sizes = change buffer.sizes)
    (given : buffer.format.isSome → after.format.isSome)
    (kept : ∀ format, buffer.ownFormat? = some format → after.ownFormat? = some format) :
    Evolves (only id change) script (script.setBuffer id after) := by
  refine ⟨fun other => ?_, fun other found => ?_, fun other format found => ?_,
    fun _ _ kept => kept⟩
  · simp only [sizes, get?_setBuffer, only]
    by_cases same : id = other
    · subst other
      simp [present, changed]
    · simp [same, Ne.symm same]
  · simp only [formatOf?, get?_setBuffer] at found ⊢
    by_cases same : id = other
    · subst other
      rw [present, Option.bind_some] at found
      simpa [present] using given found
    · simpa [same] using found
  · simp only [ownFormat?, get?_setBuffer] at found ⊢
    by_cases same : id = other
    · subst other
      rw [present, Option.bind_some] at found
      simpa [present] using kept format found
    · simpa [same] using found

theorem settled_pushBuffer (script : Script) {buffer : Buffer} (fresh : buffer.sizes = {}) :
    Settled script (script.pushBuffer buffer) := by
  have here (id : Id Buffer) : (script.pushBuffer buffer).buffers.store.get? id =
      if id = script.buffers.store.nextId then some buffer
      else script.buffers.store.get? id := Store.get?_push _ _ _
  have absent := script.buffers.store.get?_nextId_eq_none
  refine ⟨fun id => ?_, fun id found => ?_, fun id format found => ?_, fun _ _ kept => kept⟩
  · simp only [sizes, here]
    split
    · rename_i same
      rw [same, absent]
      simp [fresh]
    · rfl
  · simp only [formatOf?, here] at found ⊢
    split
    · rename_i same
      rw [same, absent] at found
      cases found
    · exact found
  · simp only [ownFormat?, here] at found ⊢
    split
    · rename_i same
      rw [same, absent] at found
      cases found
    · exact found

theorem settled_mapPipeline (script : Script) (id : Id Pipeline) (change : Pipeline → Pipeline) :
    Settled script (script.mapPipeline id change) :=
  ⟨fun _ => rfl, fun _ given => given, fun _ _ own => own, fun _ _ kept => kept⟩

theorem settled_registerFormat (script : Script) (format : Format) :
    Settled script (script.registerFormat format) := by
  refine ⟨fun _ => rfl, fun _ given => given, fun _ _ own => own, fun id other kept => ?_⟩
  change (script.formats.push format).get? id = some other
  rw [Store.get?_push, if_neg ?_]
  · exact kept
  · rintro rfl
    rw [Store.get?_nextId_eq_none] at kept
    cases kept

theorem settled_pushFormat (script : Script) (format : Format) :
    Settled script (script.pushFormat format) := by
  have settled := settled_registerFormat (script.registerType format.type) format
  exact ⟨settled.sizes, settled.given, settled.own, settled.registered⟩

end Script

namespace Session

variable {session final : Session} {id : Id Buffer} {format : Format}

theorem makeBuffer_ok (done : makeBuffer.apply session = (.ok id, final)) :
    ∃ script, final = { session with script } ∧ session.script.Settled script := by
  obtain ⟨-, rfl⟩ := makeBuffer_parts done
  exact ⟨_, rfl, Script.settled_pushBuffer _ rfl⟩

theorem bufferAt_ok {slot : BindingSlot} {kind : BufferKind}
    (done : (bufferAt slot kind).apply session = (.ok id, final)) :
    ∃ script, final = { session with script } ∧ session.script.Settled script := by
  obtain ⟨-, rfl⟩ | ⟨-, -, -, rfl⟩ := bufferAt_parts done
  · exact ⟨_, rfl, .refl _⟩
  · exact ⟨_, rfl, (Script.settled_pushBuffer _ rfl).trans (Script.settled_mapPipeline ..)⟩

theorem agreeOnFormat_ok {rule : String}
    (done : (agreeOnFormat id format rule).apply session = (.ok ⟨⟩, final)) :
    ∃ script, final = { session with script } ∧ session.script.Settled script ∧
      script.ownFormat? id = some format := by
  obtain ⟨buffer, present, ⟨own, rfl⟩ | ⟨free, rfl⟩⟩ := agreeOnFormat_parts done
  · refine ⟨_, rfl, .refl _, ?_⟩
    rw [Script.ownFormat?, present, Option.bind_some, own]
  · have settled : session.script.Settled
        (session.script.setBuffer id (buffer.withFormat format)) := by
      rw [Script.Settled, ← Script.only_id id]
      refine Script.evolves_setBuffer present rfl (fun _ => rfl) fun earlier own => ?_
      rw [free] at own
      cases own
    refine ⟨_, rfl, settled.trans (Script.settled_pushFormat _ format), ?_⟩
    change ((session.script.setBuffer id _).buffers.store.get? id).bind _ = _
    rw [Script.get?_setBuffer, if_pos rfl, present]
    rfl

private theorem recordSize_ok {values : List Value} {offset : Nat}
    (own : session.script.ownFormat? id = some format) (whole : offset % format.size = 0)
    (filled : values ≠ [])
    (done : (onBuffer id (Buffer.recordSize values offset)).apply session = (.ok ⟨⟩, final)) :
    ∃ script, final = { session with script } ∧ script.ownFormat? id = some format ∧
      session.script.Undergoes id (.wrote offset values.length) script := by
  obtain ⟨buffer, after, present, recorded, rfl⟩ := onBuffer_ok done
  have kept := own
  rw [Script.ownFormat?, present, Option.bind_some] at kept
  obtain ⟨given, picked⟩ := Buffer.ownFormat?_eq_some_iff.mp kept
  obtain ⟨same, found, bytes, inputs, left, flag, sizes⟩ := Buffer.recordSize_ok recorded
  obtain rfl := Option.some.inj (given.symm.trans found)
  have evolves : session.script.Evolves
      (Script.only id ((SizeChange.wrote offset values.length).apply format))
      (session.script.setBuffer id after) := by
    refine Script.evolves_setBuffer present sizes (fun _ => left ▸ rfl) fun earlier was => ?_
    obtain ⟨earlierGiven, -⟩ := Buffer.ownFormat?_eq_some_iff.mp was
    rw [Buffer.ownFormat?_eq_some_iff, left, flag]
    exact ⟨found ▸ earlierGiven, picked⟩
  have ownAfter := evolves.own id format own
  refine ⟨_, rfl, ownAfter, ?_, fun _ => ?_, fun other same => ?_⟩
  · rw [Script.formatOf?_of_ownFormat? ownAfter]
    rfl
  · exact ⟨format, ownAfter, bytes, inputs, whole, List.length_pos_iff.mpr filled⟩
  · obtain rfl := Option.some.inj (ownAfter.symm.trans (same rfl))
    exact evolves

theorem setDataAt_ok {values : List Value} {offset : Nat}
    (own : session.script.ownFormat? id = some format)
    (done : (onBuffer id (Buffer.setDataAt values offset)).apply session = (.ok ⟨⟩, final)) :
    ∃ script, final = { session with script } ∧
      session.script.Evolves (Script.only id (·.hold format offset values.length)) script := by
  obtain ⟨buffer, after, present, recorded, rfl⟩ := onBuffer_ok done
  rw [Script.ownFormat?, present, Option.bind_some] at own
  obtain ⟨given, kept⟩ := Buffer.ownFormat?_eq_some_iff.mp own
  obtain ⟨same, found, left, flag, sizes⟩ := Buffer.setDataAt_ok recorded
  obtain rfl := Option.some.inj (given.symm.trans found)
  refine ⟨_, rfl, ?_⟩
  refine Script.evolves_setBuffer present sizes (fun _ => left ▸ rfl) fun earlier was => ?_
  obtain ⟨earlierGiven, -⟩ := Buffer.ownFormat?_eq_some_iff.mp was
  rw [Buffer.ownFormat?_eq_some_iff, left, flag]
  exact ⟨found ▸ earlierGiven, kept⟩

theorem fill_ok {rules : Reader.OffsetRules} {command : String} {written : Nat × List Value}
    (done : (fill rules command id format).apply session = (.ok written, final)) :
    ∃ words script, final = { session with words, script } ∧
      written.2.length = session.words.rest.length - 1 ∧
      script.ownFormat? id = some format ∧
      session.script.Undergoes id (.wrote written.1 written.2.length) script := by
  obtain ⟨agreed, between, words, agreeing, aligned, valued, recording⟩ := fill_parts done
  obtain ⟨script, rfl, settled, own⟩ := agreeOnFormat_ok agreeing
  obtain ⟨-, -, -, whole, rfl⟩ := Reader.offset_ok aligned
  obtain ⟨filled, counted⟩ := Reader.values_ok valued
  obtain ⟨script, rfl, kept, changed⟩ := recordSize_ok own whole filled recording
  exact ⟨words, script, rfl, counted.trans (Words.length_tail _), kept, settled.undergoes changed⟩

private theorem settled_pickFormat {script : Script} {buffer : Buffer}
    (present : script.buffers.store.get? id = some buffer) (none : buffer.format = none) :
    script.Settled (script.setBuffer id
      { buffer.withFormat format with formatIsDefault := true }) := by
  rw [Script.Settled, ← Script.only_id id]
  refine Script.evolves_setBuffer present rfl (fun _ => rfl) fun earlier own => ?_
  rw [(Buffer.ownFormat?_eq_some_iff.mp own).1] at none
  cases none

private theorem storageSize_ok (proper : session.words.Proper)
    (done : (storageSize id).apply session = (.ok ⟨⟩, final)) :
    ∃ words script lexeme, final = { session with words, script } ∧
      session.words.rest = [lexeme] ∧
      session.script.Undergoes id (.declared lexeme.token.low) script := by
  obtain ⟨isInteger, ended, buffer, sized, words, present, rfl, formats⟩ := storageSize_parts done
  obtain ⟨lexeme, rest, parted, same, tail⟩ :=
    proper.exists_head (Token.isEnd_of_isInteger isInteger)
  have last : session.words.rest = [lexeme] := by
    have none := (proper.follows session.words.follows_tail).rest_eq_nil ended
    rw [tail] at none
    rw [parted, show rest = [] from none]
  have declared (format : Format) : session.script.Evolves
      (Script.only id ((SizeChange.declared lexeme.token.low).apply format))
      (session.script.setBuffer id { buffer with elementCount := session.words.head.low }) :=
    Script.evolves_setBuffer present (by rw [same]; rfl) (fun given => given) fun _ own => own
  have there : (session.script.setBuffer id
      { buffer with elementCount := session.words.head.low }).buffers.store.get? id =
        some { buffer with elementCount := session.words.head.low } := by
    rw [Script.get?_setBuffer, if_pos rfl, present, Option.map_some]
  rcases formats with ⟨given, rfl⟩ | ⟨formatless, rfl⟩
  · refine ⟨words, _, lexeme, rfl, last, ?_, nofun, fun format _ => declared format⟩
    rw [Script.formatOf?, there]
    exact given
  · have settled := (@settled_pickFormat id .signedByte _ _ there formatless).trans
      (Script.settled_pushFormat _ .signedByte)
    refine ⟨words, _, lexeme, rfl, last, ?_, nofun, fun format _ => (declared format).trans settled⟩
    change (Script.formatOf? (Script.setBuffer _ id _) id).isSome = true
    rw [Script.formatOf?, Script.get?_setBuffer, if_pos rfl, there]
    rfl

/-- A storage command is recorded on its line with the write, or for the size, that its statement
ends in. -/
theorem storage_ok (proper : session.words.Proper)
    (done : storage.apply session = (.ok ⟨⟩, final)) :
    ∃ words script write change, write.role = .ssbo ∧
      final = { session with
        words, script
        commands := session.commands ++ [.buffer session.head write] } ∧
      (Command.buffer session.head write).sizeChange? session.words.rest =
        some (write.buffer, change) ∧
      session.script.Undergoes write.buffer change script := by
  obtain ⟨-, slot, words, buffer, bound, filled, write, slotted, binding, body, rfl⟩ :=
    storage_parts done
  have follows := (Reader.slot_ok slotted).trans session.words.follows_tail
  obtain ⟨script, rfl, settled⟩ := bufferAt_ok binding
  rcases body with ⟨-, written, writing, rfl⟩ | ⟨-, sizing, rfl⟩
  · obtain ⟨-, format, -, filling⟩ := storageData_parts writing
    obtain ⟨words, script, rfl, -, -, changed⟩ := fill_ok filling
    exact ⟨words, script, _, _, rfl, rfl, rfl, settled.undergoes changed⟩
  · obtain ⟨left, script, lexeme, rfl, last, changed⟩ :=
      storageSize_ok (proper.follows follows) sizing
    refine ⟨left, script, _, _, rfl, rfl, rfl, ?_⟩
    have whole : session.words.rest.getLast? = some lexeme := by
      obtain ⟨front, parted⟩ := follows.rest
      rw [← parted, show words.rest = [lexeme] from last, List.getLast?_append]
      rfl
    rw [whole]
    exact settled.undergoes changed

/-- A uniform buffer has a format for its own that is laid out as such buffers are. -/
theorem uniformBuffer_ok {head : CommandHead}
    (done : (uniformBuffer head).apply session = (.ok ⟨⟩, final)) :
    ∃ words script write, write.role = .uniform ∧
      final = { session with
        words, script
        commands := session.commands ++ [.buffer head write] } ∧
      (∃ format, script.ownFormat? write.buffer = some format ∧ format.layout = .std140) ∧
      session.script.Undergoes write.buffer (.wrote write.offset write.values.length) script := by
  obtain ⟨-, slot, words, buffer, bound, format, written, filled, -, -, binding, -, filling, rfl⟩ :=
    uniformBuffer_parts done
  obtain ⟨script, rfl, settled⟩ := bufferAt_ok binding
  obtain ⟨words, script, rfl, -, own, changed⟩ := fill_ok filling
  exact ⟨words, script, _, rfl, rfl, ⟨_, own, rfl⟩, settled.undergoes changed⟩

/-- Push constants are recorded without their values, which are the tokens after the offset. -/
theorem pushConstants_ok {head : CommandHead} {typeName : String}
    (done : (pushConstants head typeName).apply session = (.ok ⟨⟩, final)) :
    ∃ words script write, write.role = .pushConstant ∧
      final = { session with
        words, script
        commands := session.commands ++ [.buffer head write] } ∧
      session.script.Undergoes write.buffer
        (.pushed write.offset (session.words.rest.length - 1)) script := by
  obtain ⟨buffer, made, format, written, filled, held, making, -, filling, holding, rfl⟩ :=
    pushConstants_parts done
  obtain ⟨script, rfl, settled⟩ := makeBuffer_ok making
  obtain ⟨words, script, rfl, counted, own, changed⟩ := fill_ok filling
  obtain ⟨script, rfl, grown⟩ := setDataAt_ok own holding
  refine ⟨words, script, _, rfl, rfl, ?_⟩
  rw [← show written.2.length = session.words.rest.length - 1 from counted]
  exact settled.undergoes (changed.pushed own grown)

/-- A probe of a storage buffer is recorded on the line that it begins on, and refers to the format
that its buffer has for its own. -/
theorem probeStorage_ok (done : probeStorage.apply session = (.ok ⟨⟩, final)) :
    ∃ words script probe,
      final = { session with
        words, script
        commands := session.commands ++ [.probeStorage session.words.line probe] } ∧
      (∃ format, script.formats.get? probe.format = some format ∧
        script.ownFormat? probe.buffer = some format) ∧
      session.script.Settled script := by
  obtain ⟨-, -, format, slot, slotted, buffer, agreed, comparator, values, between, words, -, -, -,
    agreeing, -, -, -, rfl⟩ := probeStorage_parts done
  obtain ⟨script, rfl, settled, own⟩ := agreeOnFormat_ok agreeing
  have kept := Script.settled_registerFormat script format
  exact ⟨words, _, _, rfl, ⟨format, Store.get?_nextId _ _, kept.own _ _ own⟩, settled.trans kept⟩

end Session

end GpuScript
