import GpuScript.Proofs.Buffer.Accrual
import GpuScript.Proofs.Buffer.Outline
import GpuScript.Proofs.Section.Operations

/-! What a section does to its script, in a few kinds of steps: it makes buffers, binds those that it
makes, adds to the ones that there are, writes into those that it has made, and keeps formats. A
property that none of these can break holds after any section that it held before, also after one
that fails half-way. -/
namespace GpuScript

namespace Script

/-- A property of scripts that no step of a section can break. What a section adds is named after
the number of buffers. -/
structure Lasting (holds : Script → Prop) : Prop where
  add : ∀ script buffer, buffer.name = Buffer.madeName script.buffers.store.size → holds script →
    holds (script.pushBuffer buffer)
  fill : ∀ script id buffer after, script.buffers.store.get? id = some buffer →
    after.name = buffer.name → holds script → holds (script.setBuffer id after)
  rebind : ∀ script id change, (∀ pipeline : Pipeline, (change pipeline).name = pipeline.name) →
    holds script → holds (script.mapPipeline id change)
  format : ∀ script format, holds script → holds (script.registerFormat format)
  type : ∀ script type, holds script → holds (script.registerType type)

/-- A property of scripts that no step of a section breaks. Buffers that there are only accrue, and
those that are written into have been made under the property. -/
structure Enduring (holds : Script → Prop) (made : Id Buffer → Prop) : Prop where
  add : ∀ script buffer, buffer.name = Buffer.madeName script.buffers.store.size → holds script →
    holds (script.pushBuffer buffer) ∧ made script.buffers.store.nextId
  place : ∀ script id pipeline buffer (binding : BufferBinding),
    buffer.name = Buffer.madeName script.buffers.store.size →
    script.pipelines.get? id = some pipeline → pipeline.bufferAt? binding.slot = none →
    holds script → holds ((script.pushBuffer buffer).mapPipeline id fun pipeline =>
      (pipeline.clearBuffers binding.slot).addBuffer binding)
  accrue : ∀ script id buffer after, script.buffers.store.get? id = some buffer →
    buffer.Accrues after → holds script → holds (script.setBuffer id after)
  write : ∀ script id buffer after, made id → script.buffers.store.get? id = some buffer →
    after.name = buffer.name → holds script → holds (script.setBuffer id after)
  state : ∀ script id state, holds script →
    holds (script.mapPipeline id fun pipeline => { pipeline with state })
  format : ∀ script format, holds script → holds (script.registerFormat format)
  type : ∀ script type, holds script → holds (script.registerType type)

theorem Lasting.enduring {holds : Script → Prop} (lasting : Lasting holds) :
    Enduring holds fun _ => True where
  add script buffer named held := ⟨lasting.add script buffer named held, trivial⟩
  place script id _ buffer _ named _ _ held :=
    lasting.rebind _ id _ (fun _ => rfl) (lasting.add script buffer named held)
  accrue script id buffer after found accrues :=
    lasting.fill script id buffer after found accrues.name
  write script id buffer after _ := lasting.fill script id buffer after
  state script id _ := lasting.rebind script id _ fun _ => rfl
  format := lasting.format
  type := lasting.type

end Script

namespace Session

variable {holds : Script → Prop} {Result Next : Type}

/-- An operation of a session keeps a property of the script, also where it fails. -/
abbrev Upholds (holds : Script → Prop) (operation : Edit Session Result) : Prop :=
  Edit.Maintains (fun session => holds session.script) operation

theorem upholds_read (reader : Reader Result) : Upholds holds (read reader) := by
  intro session held
  rw [apply_read]
  cases reader.run session.words with
  | ok reading => exact held
  | error fault => exact held

private theorem upholds_pipeline : Upholds holds pipeline := by
  intro session held
  rw [apply_pipeline]
  cases session.script.pipelines.get? session.pipelineId with
  | some pipeline => exact held
  | none => exact held

theorem upholds_record (command : Command) : Upholds holds (record command) :=
  Edit.maintains_modify fun _ held => held

theorem upholds_changeState (change : RasterState → RasterState) :
    Upholds holds (changeState change) :=
  Edit.maintains_modify fun _ held => held

/-- Whatever is read first, the rest decides. -/
theorem upholds_read_bind {reader : Reader Result} {next : Result → Edit Session Next}
    (rest : ∀ result, Upholds holds (next result)) : Upholds holds (read reader >>= next) :=
  Edit.maintains_bind (upholds_read reader) rest

theorem upholds_pipeline_bind {next : Pipeline → Edit Session Next}
    (rest : ∀ found, Upholds holds (next found)) : Upholds holds (pipeline >>= next) :=
  Edit.maintains_bind upholds_pipeline rest

theorem upholds_guard {condition : Prop} [Decidable condition] {refusal : Reader PUnit}
    {rest : PUnit → Edit Session Next} (after : Upholds holds (rest ⟨⟩)) :
    Upholds holds (if condition then read refusal >>= rest else rest ⟨⟩) :=
  Edit.maintains_ite (upholds_read_bind fun _ => after) after

theorem upholds_headed {rest : Nat → CommandHead → Edit Session Next}
    (after : ∀ line head, Upholds holds (rest line head)) :
    Upholds holds (do
      let line ← read Reader.line
      let head ← headAt line
      rest line head) := by
  refine upholds_read_bind fun line => Edit.maintains_bind ?_ (after line)
  exact Edit.maintains_get_bind fun _ _ => Edit.maintains_pure _

private theorem upholds_draw : Upholds holds draw := by
  refine upholds_read_bind fun token => upholds_guard ?_
  split
  · refine upholds_headed fun line head => upholds_pipeline_bind fun pipeline => ?_
    refine Edit.maintains_guard (upholds_read_bind fun draw => ?_)
    exact Edit.maintains_get_bind fun _ _ => upholds_record _
  · refine upholds_headed fun line head => upholds_read_bind fun draw => ?_
    exact Edit.maintains_get_bind fun _ _ => upholds_record _
  · exact upholds_read _

private theorem upholds_clear : Upholds holds clear := by
  refine upholds_read_bind fun token => upholds_headed fun line head => ?_
  refine Edit.maintains_ite (upholds_record _) ?_
  have final (command : Command) : Upholds holds (do
      read (Reader.expectEnd s!"Extra parameter to clear {token.text} command")
      record command) := upholds_read_bind fun _ => upholds_record command
  dsimp only
  split
  · exact upholds_read_bind fun _ => Edit.maintains_bind (Edit.maintains_pure _) final
  · exact upholds_read_bind fun _ => Edit.maintains_bind (Edit.maintains_pure _) final
  · exact upholds_read_bind fun _ => Edit.maintains_bind (Edit.maintains_pure _) final
  · exact upholds_read_bind final

theorem upholds_entryPoint (stage : ShaderStage) : Upholds holds (entryPoint stage) :=
  upholds_headed fun _ _ => upholds_read_bind fun _ => upholds_record _

private theorem upholds_compute : Upholds holds compute := by
  refine upholds_headed fun line head => upholds_read_bind fun token => ?_
  refine Edit.maintains_ite (upholds_entryPoint _) ?_
  exact upholds_read_bind fun groups => upholds_record _

private theorem upholds_patch : Upholds holds patch := by
  refine upholds_headed fun line head => upholds_read_bind fun count => ?_
  exact Edit.maintains_bind (upholds_changeState _) fun _ => upholds_record _

theorem upholds_stage (words : String) (stage : ShaderStage) :
    Upholds holds (Session.stage words stage) :=
  upholds_read_bind fun _ => upholds_guard (upholds_entryPoint stage)

private theorem upholds_tessellation : Upholds holds tessellation := by
  refine upholds_read_bind fun token => ?_
  split
  · exact upholds_stage _ _
  · exact upholds_stage _ _
  · exact upholds_read _

/-- The words of commands on buffers, and of probes. -/
def bufferWords : List String := ["ssbo", "uniform", "probe", "relative"]

theorem upholds_dispatch_of_plain {name : String} (plain : name ∉ bufferWords) :
    Upholds holds (dispatch name) := by
  unfold dispatch
  split
  case h_1 => exact upholds_draw
  case h_2 => exact upholds_clear
  case h_3 | h_4 | h_6 | h_8 => exact absurd (by decide) plain
  case h_5 => exact upholds_patch
  case h_7 => exact upholds_read_bind fun _ => Edit.maintains_modify fun _ held => held
  case h_9 => exact upholds_compute
  case h_10 | h_11 | h_12 => exact upholds_stage _ _
  case h_13 => exact upholds_tessellation
  case h_14 =>
    split
    · exact upholds_read_bind fun change => upholds_changeState change
    · exact upholds_read _

/-- A statement keeps what the command of its first word keeps. -/
theorem upholds_execute {statement : Statement}
    (dispatched : statement.first.token.isWord = true →
      Upholds holds (dispatch statement.first.token.text)) :
    Upholds holds (execute statement) := by
  have performed : Upholds holds (perform statement) := by
    refine Edit.maintains_bind (Edit.maintains_modify fun _ held => held) fun _ => ?_
    split
    · rename_i word
      exact dispatched word
    · exact upholds_read _
  intro session held
  have kept := performed session held
  rw [execute, Edit.apply_tryCatch]
  cases ran : (perform statement).apply session with
  | mk outcome after =>
    rw [ran] at kept
    cases outcome with
    | ok result => exact kept
    | error fault => exact kept

section Steps

variable {made : Id Buffer → Prop} (enduring : Script.Enduring holds made)
include enduring

/-- A buffer that has been made may be written into. -/
theorem upholds_makeBuffer_bind {next : Id Buffer → Edit Session Next}
    (rest : ∀ id, made id → Upholds holds (next id)) : Upholds holds (makeBuffer >>= next) := by
  intro session held
  rw [Edit.apply_bind, apply_makeBuffer]
  by_cases taken : (session.script.buffers.id? session.freshBuffer.name).isSome
  · rw [if_pos taken]
    exact held
  · rw [if_neg taken]
    obtain ⟨added, fresh⟩ :=
      enduring.add session.script session.freshBuffer session.name_freshBuffer held
    exact rest _ fresh _ added

theorem upholds_onBuffer {operation : Edit Buffer Result} (id : Id Buffer)
    (accrues : ∀ buffer, Buffer.Accrues buffer (operation.apply buffer).2) :
    Upholds holds (onBuffer id operation) := by
  intro session held
  rw [apply_onBuffer]
  cases found : session.script.buffers.store.requireBuffer id with
  | error fault => exact held
  | ok buffer =>
    exact enduring.accrue _ _ _ _ (Store.requireBuffer_ok_iff.mp found) (accrues buffer) held

private theorem upholds_write {operation : Edit Buffer Result} {id : Id Buffer} (fresh : made id)
    (fills : Buffer.Fills operation) : Upholds holds (onBuffer id operation) := by
  intro session held
  rw [apply_onBuffer]
  cases found : session.script.buffers.store.requireBuffer id with
  | error fault => exact held
  | ok buffer =>
    exact enduring.write _ _ _ _ fresh (Store.requireBuffer_ok_iff.mp found) (fills.name buffer)
      held

theorem upholds_keepFormat (format : Format) : Upholds holds (keepFormat format) :=
  fun _ held => enduring.format _ _ (enduring.type _ _ held)

theorem upholds_bufferAt (slot : BindingSlot) (kind : BufferKind) :
    Upholds holds (bufferAt slot kind) := by
  intro session held
  rw [bufferAt, Edit.apply_bind, apply_pipeline]
  cases found : session.script.pipelines.get? session.pipelineId with
  | none => exact held
  | some pipeline =>
    dsimp only
    split
    · exact held
    · rename_i free
      rw [Edit.apply_bind, apply_makeBuffer]
      by_cases taken : (session.script.buffers.id? session.freshBuffer.name).isSome
      · rw [if_pos taken]
        exact held
      · rw [if_neg taken]
        dsimp only
        have there : (session.script.pushBuffer session.freshBuffer).pipelines.get?
            session.pipelineId = some pipeline := found
        rw [Edit.apply_bind, apply_changePipeline, there]
        exact enduring.place session.script _ _ _
          { buffer := session.script.buffers.store.nextId, kind, slot } session.name_freshBuffer
          found free held

omit enduring in
theorem upholds_lookup {id : Id Buffer} {next : Buffer → Edit Session Next}
    (rest : ∀ buffer, Edit.Leads
      (fun session => holds session.script ∧ session.script.buffers.store.get? id = some buffer)
      (fun session => holds session.script) (fun _ session => holds session.script)
      (next buffer)) :
    Upholds holds (do
      let session ← get
      let buffer ← Edit.ofExcept (session.script.buffers.store.requireBuffer id)
      next buffer) := by
  intro session held
  rw [Edit.apply_bind_of_ok (Edit.apply_get session), Edit.apply_bind, Edit.apply_ofExcept]
  cases found : session.script.buffers.store.requireBuffer id with
  | error fault => exact held
  | ok buffer =>
    exact Edit.leads_iff.mp (rest buffer) session ⟨held, Store.requireBuffer_ok_iff.mp found⟩

/-- Something is added to a buffer that has been looked up. -/
theorem leads_accrue {id : Id Buffer} {buffer : Buffer} {change : Buffer → Buffer}
    (accrues : buffer.Accrues (change buffer)) :
    Edit.Leads
      (fun session => holds session.script ∧ session.script.buffers.store.get? id = some buffer)
      (fun session => holds session.script) (fun _ session => holds session.script)
      (onBuffer id (modify change)) := by
  rintro session ⟨held, found⟩
  rw [apply_onBuffer, Store.requireBuffer_ok_iff.mpr found]
  exact enduring.accrue _ _ _ _ found accrues held

theorem upholds_agreeOnFormat (id : Id Buffer) (format : Format) (rule : String) :
    Upholds holds (agreeOnFormat id format rule) := by
  refine upholds_lookup fun buffer => ?_
  rw [← Buffer.isSome_ownFormat?]
  split
  · split
    · exact Edit.leads_throw fun _ => And.left
    · exact Edit.leads_pure fun _ => And.left
  · rename_i free
    have unsettled := Option.not_isSome_iff_eq_none.mp free
    exact Edit.leads_bind (leads_accrue enduring (Buffer.accrues_withFormat unsettled format))
      fun _ => (upholds_keepFormat enduring format).leads

theorem upholds_recordSize (id : Id Buffer) (values : List Value) (offset : Nat) :
    Upholds holds (onBuffer id (Buffer.recordSize values offset)) :=
  upholds_onBuffer enduring id (Buffer.accrues_recordSize values offset)

private theorem upholds_storageData (buffer : Id Buffer) : Upholds holds (storageData buffer) := by
  refine upholds_read_bind fun token => upholds_guard (upholds_read_bind fun format => ?_)
  refine Edit.maintains_bind (upholds_agreeOnFormat enduring _ _ _) fun _ => ?_
  refine upholds_read_bind fun offset => upholds_read_bind fun values => ?_
  exact Edit.maintains_bind (upholds_recordSize enduring buffer values offset) fun _ =>
    Edit.maintains_pure _

private theorem upholds_storageSize (id : Id Buffer) : Upholds holds (storageSize id) := by
  refine upholds_read_bind fun token => upholds_guard (upholds_guard ?_)
  have counted : Upholds holds
      (onBuffer id (modify fun buffer => { buffer with elementCount := token.low })) :=
    upholds_onBuffer enduring id fun buffer => buffer.accrues_count token.low
  refine Edit.maintains_bind counted fun _ => upholds_lookup fun buffer => ?_
  split
  · rename_i missing
    have picked := Buffer.accrues_pickFormat (Option.isNone_iff_eq_none.mp missing) .signedByte
    refine Edit.leads_bind (leads_accrue enduring picked) fun _ => ?_
    exact Edit.leads_bind (upholds_keepFormat enduring _).leads fun _ => (upholds_read _).leads
  · exact Edit.leads_iff.mpr fun session seen => upholds_read _ session seen.1

private theorem upholds_storage : Upholds holds storage := by
  refine upholds_headed fun line head => upholds_read_bind fun first => ?_
  refine upholds_guard (upholds_guard (upholds_read_bind fun slot => ?_))
  refine upholds_read_bind fun token => upholds_guard ?_
  refine Edit.maintains_bind (upholds_bufferAt enduring _ _) fun buffer => Edit.maintains_ite ?_ ?_
  · refine upholds_read_bind fun _ => ?_
    exact Edit.maintains_bind (upholds_storageData enduring _) fun _ => upholds_record _
  · exact Edit.maintains_bind (upholds_storageSize enduring _) fun _ => upholds_record _

private theorem upholds_uniformData (buffer : Id Buffer) (format : Format) :
    Upholds holds (uniformData buffer format) := by
  refine Edit.maintains_bind (upholds_agreeOnFormat enduring _ _ _) fun _ => ?_
  refine upholds_read_bind fun offset => upholds_read_bind fun values => ?_
  exact Edit.maintains_bind (upholds_recordSize enduring buffer values offset) fun _ =>
    Edit.maintains_pure _

private theorem upholds_uniform : Upholds holds uniform := by
  refine upholds_headed fun line head => upholds_read_bind fun token => ?_
  refine upholds_guard (upholds_guard (Edit.maintains_ite ?_ ?_))
  · refine upholds_read_bind fun first => upholds_read_bind fun slot => ?_
    refine upholds_read_bind fun token => upholds_guard ?_
    refine Edit.maintains_bind (upholds_bufferAt enduring _ _) fun buffer => ?_
    refine upholds_read_bind fun format => ?_
    exact Edit.maintains_bind (upholds_uniformData enduring _ _) fun _ => upholds_record _
  · refine upholds_makeBuffer_bind enduring fun buffer fresh => ?_
    refine upholds_read_bind fun format => ?_
    refine Edit.maintains_bind (upholds_uniformData enduring _ _) fun data => ?_
    have written := upholds_write enduring fresh (Buffer.fills_setDataAt data.2 data.1)
    exact Edit.maintains_bind written fun _ => upholds_record _

private theorem upholds_probeStorage : Upholds holds probeStorage := by
  refine upholds_read_bind fun line => upholds_read_bind fun token => ?_
  refine upholds_guard (upholds_guard (upholds_read_bind fun format => ?_))
  refine upholds_read_bind fun first => upholds_read_bind fun slot => ?_
  refine upholds_read_bind fun token => upholds_guard (upholds_pipeline_bind fun found => ?_)
  split
  · exact Edit.maintains_throw _
  · refine Edit.maintains_bind (upholds_agreeOnFormat enduring _ _ _) fun _ => ?_
    refine Edit.maintains_get_bind fun session _ => ?_
    have registered : Upholds holds (onScript (modify (·.registerFormat format))) :=
      fun _ held => enduring.format _ _ held
    refine Edit.maintains_bind registered fun _ => upholds_read_bind fun offset => ?_
    refine upholds_read_bind fun comparator => upholds_read_bind fun values => ?_
    exact Edit.maintains_get_bind fun _ _ => upholds_record _

private theorem upholds_probe (isRelative : Bool) : Upholds holds (Session.probe isRelative) := by
  refine upholds_read_bind fun first => upholds_guard (Edit.maintains_ite ?_ ?_)
  · exact upholds_probeStorage enduring
  · refine upholds_pipeline_bind fun found => ?_
    split
    · exact Edit.maintains_throw _
    · refine upholds_read_bind fun line => Edit.maintains_get_bind fun session _ => ?_
      exact upholds_read_bind fun probe => upholds_record _

private theorem upholds_dispatch (name : String) : Upholds holds (dispatch name) := by
  by_cases plain : name ∈ bufferWords
  · simp only [bufferWords, List.mem_cons, List.not_mem_nil, or_false] at plain
    rcases plain with rfl | rfl | rfl | rfl
    · exact upholds_storage enduring
    · exact upholds_uniform enduring
    · exact upholds_probe enduring false
    · exact upholds_read_bind fun _ => upholds_guard (upholds_probe enduring true)
  · exact upholds_dispatch_of_plain plain

theorem upholds_executeAll (statements : List Statement) :
    Upholds holds (statements.forM execute) :=
  Edit.maintains_forM fun _ _ => upholds_execute fun _ => upholds_dispatch enduring _

theorem upholds_commit : Upholds holds commit := by
  refine upholds_pipeline_bind fun found => Edit.maintains_get_bind fun seen _ => ?_
  intro session held
  rw [apply_changePipeline]
  cases session.script.pipelines.get? session.pipelineId with
  | none => exact held
  | some pipeline => exact enduring.state _ _ _ held

theorem upholds_run (text : String) (line : Nat) : Upholds holds (run text line) :=
  Edit.maintains_bind (upholds_executeAll enduring _) fun _ => upholds_commit enduring

end Steps

end Session

/-- A property that no step of a section can break holds after every section, also one that
fails. -/
theorem Script.Lasting.readSection {holds : Script → Prop} (lasting : Script.Lasting holds)
    {script : Script} (held : holds script) (pipeline : Id Pipeline) (line : Nat) (text : String) :
    holds (script.readSection pipeline line text).2.script :=
  Session.upholds_run lasting.enduring text line (.start script pipeline) held

end GpuScript
