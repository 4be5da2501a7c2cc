import GpuScript.Proofs.Buffer.History
import GpuScript.Proofs.Section.Recordings
import GpuScript.Section.Run

namespace GpuScript

/-- The command says which values go into a buffer: it writes into a storage buffer or fills a
uniform one. -/
def BufferWrite.RecordsValues (write : BufferWrite) : Prop :=
  write.role = .uniform ∨ write.role = .ssbo ∧ write.isSubdata = true

/-- The largest size of a buffer covers its size and all values that commands record for it. -/
structure Buffer.Covers (buffer : Buffer) (format : Format) (id : Id Buffer)
    (commands : List Command) : Prop where
  size : buffer.size ≤ buffer.maxSize
  writes : ∀ head write, .buffer head write ∈ commands → write.buffer = id →
    write.RecordsValues → format.writtenEnd write.offset write.values.length ≤ buffer.maxSize

namespace Command

/-- Exactly the commands that record values tell of a write. -/
theorem sizeChange?_eq_wrote {others : List Cursor.Lexeme} {command : Command} {id : Id Buffer}
    {offset values : Nat} :
    command.sizeChange? others = some (id, .wrote offset values) ↔
      ∃ head write, command = .buffer head write ∧ write.buffer = id ∧ write.RecordsValues ∧
        write.offset = offset ∧ write.values.length = values := by
  constructor
  · intro told
    cases command with
    | buffer head write =>
      refine ⟨head, write, rfl, ?_⟩
      cases role : write.role <;> cases subdata : write.isSubdata <;>
        simp_all [sizeChange?, BufferWrite.RecordsValues]
    | _ => cases told
  · rintro ⟨head, write, rfl, rfl, role | ⟨role, subdata⟩, rfl, rfl⟩
    · simp only [sizeChange?, role]
    · simp only [sizeChange?, role, subdata]

/-- A command on a storage or a uniform buffer changes sizes. -/
theorem exists_sizeChange? {others : List Cursor.Lexeme} {head : CommandHead} {write : BufferWrite}
    (role : write.role = .ssbo ∨ write.role = .uniform) :
    ∃ change, (Command.buffer head write).sizeChange? others = some (write.buffer, change) := by
  rcases role with role | role
  · cases subdata : write.isSubdata <;> exact ⟨_, by simp only [sizeChange?, role, subdata]; rfl⟩
  · exact ⟨_, by simp only [sizeChange?, role]; rfl⟩

end Command

namespace Recording

theorem mem_changesAt {id : Id Buffer} {history : List Recording} {change : SizeChange} :
    change ∈ changesAt id history ↔
      ∃ recording ∈ history, recording.change? = some (id, change) := by
  rw [changesAt, List.mem_filterMap]
  refine exists_congr fun recording => and_congr_right fun _ => ?_
  cases recording.change? with
  | none => simp
  | some told =>
    by_cases same : told.1 = id
    · subst id
      simp [Prod.ext_iff]
    · simp [same, Prod.ext_iff]

/-- The writes of a history are the commands that record values. -/
theorem wrote_mem_changesAt {id : Id Buffer} {history : List Recording} {offset values : Nat} :
    .wrote offset values ∈ changesAt id history ↔
      ∃ head write, .buffer head write ∈ history.map (·.command) ∧ write.buffer = id ∧
        write.RecordsValues ∧ write.offset = offset ∧ write.values.length = values := by
  rw [mem_changesAt]
  constructor
  · rintro ⟨recording, member, told⟩
    obtain ⟨head, write, same, facts⟩ := Command.sizeChange?_eq_wrote.mp told
    exact ⟨head, write, List.mem_map.mpr ⟨recording, member, same⟩, facts⟩
  · rintro ⟨head, write, member, facts⟩
    obtain ⟨recording, present, same⟩ := List.mem_map.mp member
    exact ⟨recording, present, Command.sizeChange?_eq_wrote.mpr ⟨head, write, same, facts⟩⟩

theorem changesAt_ne_nil {id : Id Buffer} {history : List Recording}
    (target : ∃ head write, .buffer head write ∈ history.map (·.command) ∧ write.buffer = id ∧
      (write.role = .ssbo ∨ write.role = .uniform)) : changesAt id history ≠ [] := by
  obtain ⟨head, write, member, rfl, role⟩ := target
  obtain ⟨recording, present, same⟩ := List.mem_map.mp member
  obtain ⟨change, told⟩ := @Command.exists_sizeChange? recording.statement.others head write role
  apply List.ne_nil_of_mem
  exact mem_changesAt.mpr ⟨recording, present, (congrArg _ same).trans told⟩

/-- A buffer whose sizes are what its history comes to. -/
theorem covers_iff {buffer : Buffer} {format : Format} {id : Id Buffer} {history : List Recording}
    {count : Nat} (formatted : buffer.format = some format)
    (sizes : buffer.sizes = ⟨SizeChange.countOver format count (changesAt id history),
      SizeChange.recordedOver format count (changesAt id history)⟩) :
    buffer.Covers format id (history.map (·.command)) ↔
      SizeChange.Sound format count (changesAt id history) := by
  have stride : buffer.stride = format.size := by
    rw [Buffer.stride, formatted]
    rfl
  have size : buffer.size =
      SizeChange.countOver format count (changesAt id history) * format.size := by
    rw [Buffer.size, stride]
    exact congrArg (·.count * format.size) sizes
  have covered (size : Nat) : size ≤ buffer.maxSize ↔
      size ≤ SizeChange.recordedOver format count (changesAt id history) ∨
        SizeChange.recordedOver format count (changesAt id history) = 0 ∧
          size ≤ SizeChange.countOver format count (changesAt id history) * format.size := by
    rw [Buffer.maxSize_sizes, stride, sizes]
    exact Sizes.le_maxSize
  constructor
  · rintro ⟨whole, writes⟩
    refine ⟨?_, fun offset values member => ?_⟩
    · rw [size, covered] at whole
      exact whole.symm.imp_left And.left
    · obtain ⟨head, write, present, here, records, rfl, rfl⟩ := wrote_mem_changesAt.mp member
      exact (covered _).mp (writes head write present here records)
  · rintro ⟨whole, writes⟩
    refine ⟨?_, fun head write present here records => ?_⟩
    · rw [size, covered]
      exact whole.symm.imp_right fun none => ⟨none, Nat.le_refl _⟩
    · have member := wrote_mem_changesAt.mpr ⟨head, write, present, here, records, rfl, rfl⟩
      exact (covered _).mpr (writes _ _ member)

end Recording

namespace Script

open Recording (changesAt)

/-- Sections that are read to their ends, one after the other and for any pipelines, with all that
they record. -/
inductive Reads : Script → List Recording → Script → Prop
  | nil (script : Script) : Reads script [] script
  | read {script final : Script} {id : Id Pipeline} {line : Nat} {text : String}
      {later : List Recording} (done : (script.readSection id line text).1 = .ok ⟨⟩)
      (rest : Reads (script.readSection id line text).2.script later final) :
      Reads script (script.recordings id line text ++ later) final

theorem Reads.replays {script final : Script} {history : List Recording}
    (reads : Reads script history final) : script.Replays history final := by
  induction reads with
  | nil script => exact (Settled.refl script).replays
  | read done rest ih => exact (readSection_replays done).append ih

/-- No size was recorded for any buffer. -/
def Unrecorded (script : Script) : Prop :=
  ∀ id buffer, script.buffers.store.get? id = some buffer → buffer.recordedSize = 0

theorem Unrecorded.sizes {script : Script} (fresh : script.Unrecorded) (id : Id Buffer) :
    script.sizes id = ⟨(script.sizes id).count, 0⟩ := by
  unfold Script.sizes
  cases present : script.buffers.store.get? id with
  | none => rfl
  | some buffer => exact congrArg (Sizes.mk buffer.elementCount) (fresh id buffer present)

/-- The sizes of a buffer after sections that change them are what its history comes to. -/
theorem Reads.sizes {script final : Script} {history : List Recording} (fresh : script.Unrecorded)
    (reads : Reads script history final) {id : Id Buffer} (changed : changesAt id history ≠ []) :
    ∃ buffer format, final.buffers.store.get? id = some buffer ∧ buffer.format = some format ∧
      (∀ change ∈ changesAt id history, change.isWrite = true → change.Aligned format) ∧
      buffer.sizes =
        ⟨SizeChange.countOver format (script.sizes id).count (changesAt id history),
          SizeChange.recordedOver format (script.sizes id).count (changesAt id history)⟩ := by
  have replays := reads.replays
  obtain ⟨format, given⟩ := Option.isSome_iff_exists.mp (replays.given id (.inr changed))
  obtain ⟨buffer, present, formatted⟩ := Option.bind_eq_some_iff.mp given
  have written : ∀ change ∈ changesAt id history, change.isWrite = true →
      final.ownFormat? id = some format ∧ change.Aligned format := by
    intro change member writes
    obtain ⟨other, own, aligned⟩ := replays.aligned id change member writes
    obtain rfl := Option.some.inj ((formatOf?_of_ownFormat? own).symm.trans given)
    exact ⟨own, aligned⟩
  have sizes := replays.sizes id format fun change member writes =>
    (written change member writes).1
  rw [fresh.sizes, SizeChange.foldl_apply] at sizes
  refine ⟨buffer, format, present, formatted,
    fun change member writes => (written change member writes).2, ?_⟩
  rw [← sizes, Script.sizes, present]
  rfl

/-- After any sections the largest size of a storage or uniform buffer covers its size and all
values recorded for it exactly if the history of the buffer is sound. -/
theorem covers_iff_sound {script final : Script} {history : List Recording}
    (fresh : script.Unrecorded) (reads : Reads script history final) {id : Id Buffer}
    (target : ∃ head write, .buffer head write ∈ history.map (·.command) ∧ write.buffer = id ∧
      (write.role = .ssbo ∨ write.role = .uniform)) :
    ∃ buffer format, final.buffers.store.get? id = some buffer ∧ buffer.format = some format ∧
      (buffer.Covers format id (history.map (·.command)) ↔
        SizeChange.Sound format (script.sizes id).count (changesAt id history)) := by
  obtain ⟨buffer, format, present, formatted, -, sizes⟩ :=
    reads.sizes fresh (Recording.changesAt_ne_nil target)
  exact ⟨buffer, format, present, formatted, Recording.covers_iff formatted sizes⟩

/-- Two bytes that are written are covered. -/
theorem covers_iff_sound_write :
    let script := SectionTarget.compute.script
    let after := (script.readSection ⟨0⟩ 1 "ssbo 0 subdata uint8_t 0 1 2\n").2.script
    let history := script.recordings ⟨0⟩ 1 "ssbo 0 subdata uint8_t 0 1 2\n"
    ∃ buffer format, after.buffers.store.get? ⟨0⟩ = some buffer ∧ buffer.format = some format ∧
      buffer.Covers format ⟨0⟩ (history.map (·.command)) := by
  intro script after history
  have done : (script.readSection ⟨0⟩ 1 "ssbo 0 subdata uint8_t 0 1 2\n").1 = .ok ⟨⟩ := by
    decide +kernel
  have reads : Reads script history after := List.append_nil history ▸ .read done (.nil after)
  have fresh : script.Unrecorded := fun id buffer present => by cases present
  have changes : changesAt ⟨0⟩ history = [.wrote 0 2] := by decide +kernel
  obtain ⟨head, write, member, here, records, -, -⟩ :=
    Recording.wrote_mem_changesAt.mp (changes ▸ List.mem_singleton_self _)
  obtain ⟨buffer, format, present, formatted, covers⟩ :=
    covers_iff_sound fresh reads ⟨head, write, member, here, records.symm.imp_left And.left⟩
  refine ⟨buffer, format, present, formatted, covers.mpr ?_⟩
  have shape : (after.formatOf? ⟨0⟩).map (fun format => (format.size, format.inputCount)) =
      some (1, 1) := by decide +kernel
  rw [formatOf?, present, Option.bind_some, formatted, Option.map_some] at shape
  obtain ⟨size, inputs⟩ := Prod.mk.inj (Option.some.inj shape)
  rw [changes]
  refine @SizeChange.sound_of_declared_first format [] [.wrote 0 2] (fun _ none => by cases none)
    (fun change member => ?_) 0
  obtain rfl := List.mem_singleton.mp member
  refine ⟨0, 2, rfl, ?_, ?_⟩
  · rw [SizeChange.Aligned, size, inputs]
    decide
  · rw [inputs]
    decide

/-- A size that is declared after a write is not covered. -/
theorem covers_declared_after_write :
    ¬∀ (script final : Script) (history : List Recording), script.Unrecorded →
      Reads script history final → ∀ id,
      (∃ head write, .buffer head write ∈ history.map (·.command) ∧ write.buffer = id ∧
        (write.role = .ssbo ∨ write.role = .uniform)) →
      ∃ buffer format, final.buffers.store.get? id = some buffer ∧ buffer.format = some format ∧
        buffer.Covers format id (history.map (·.command)) := by
  intro covers
  let script := SectionTarget.compute.script
  let text := "ssbo 0 subdata float 0 1.0\nssbo 0 100\n"
  let after := (script.readSection ⟨0⟩ 1 text).2.script
  let history := script.recordings ⟨0⟩ 1 text
  have done : (script.readSection ⟨0⟩ 1 text).1 = .ok ⟨⟩ := by decide +kernel
  have reads : Reads script history after := List.append_nil history ▸ .read done (.nil after)
  have fresh : script.Unrecorded := fun id buffer present => by cases present
  have changes : changesAt ⟨0⟩ history = [.wrote 0 1, .declared 100] := by decide +kernel
  obtain ⟨head, write, member, here, records, -, -⟩ :=
    Recording.wrote_mem_changesAt.mp (changes ▸ List.mem_cons_self)
  obtain ⟨buffer, format, present, -, covered⟩ :=
    covers script after history fresh reads ⟨0⟩
      ⟨head, write, member, here, records.symm.imp_left And.left⟩
  have sizes : (after.buffers.store.get? ⟨0⟩).map (fun buffer => (buffer.size, buffer.maxSize)) =
      some (400, 4) := by decide +kernel
  rw [present] at sizes
  obtain ⟨size, maxSize⟩ := Prod.mk.inj (Option.some.inj sizes)
  have short := covered.size
  omega

/-- Where the size of a buffer is declared before anything is written into it, and writes are of
whole elements, its largest size covers everything. -/
theorem covers_of_declared_first {script final : Script} {history : List Recording}
    (fresh : script.Unrecorded) (reads : Reads script history final) {id : Id Buffer}
    {declarations writes : List SizeChange}
    (parted : changesAt id history = declarations ++ writes)
    (declared : ∀ change ∈ declarations, change.isWrite = false)
    (whole : ∀ change ∈ writes, ∃ offset values, change = .wrote offset values ∧
      ∀ format, final.formatOf? id = some format → format.inputCount ∣ values)
    (changed : changesAt id history ≠ []) :
    ∃ buffer format, final.buffers.store.get? id = some buffer ∧ buffer.format = some format ∧
      buffer.Covers format id (history.map (·.command)) := by
  obtain ⟨buffer, format, present, formatted, aligned, sizes⟩ := reads.sizes fresh changed
  refine ⟨buffer, format, present, formatted, (Recording.covers_iff formatted sizes).mpr ?_⟩
  have known : final.formatOf? id = some format := by
    rw [formatOf?, present]
    exact formatted
  rw [parted] at aligned ⊢
  apply SizeChange.sound_of_declared_first declared
  intro change member
  obtain ⟨offset, values, rfl, divides⟩ := whole change member
  exact ⟨offset, values, rfl, aligned _ (List.mem_append_right _ member) rfl, divides format known⟩

end Script

end GpuScript
