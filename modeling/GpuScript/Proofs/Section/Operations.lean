import GpuScript.Proofs.Edit
import GpuScript.Proofs.Store
import GpuScript.Section.Run

namespace GpuScript

namespace Script

def mapPipeline (script : Script) (id : Id Pipeline) (change : Pipeline → Pipeline) : Script :=
  { script with
    pipelines := { script.pipelines with store := script.pipelines.store.modify id change } }

def setBuffer (script : Script) (id : Id Buffer) (buffer : Buffer) : Script :=
  { script with buffers := { script.buffers with store := script.buffers.store.set id buffer } }

theorem get?_setBuffer (script : Script) (id other : Id Buffer) (buffer : Buffer) :
    (script.setBuffer id buffer).buffers.store.get? other =
      if id = other then (script.buffers.store.get? other).map fun _ => buffer
      else script.buffers.store.get? other :=
  Store.get?_modify script.buffers.store id other fun _ => buffer

def pushBuffer (script : Script) (buffer : Buffer) : Script :=
  { script with
    buffers := ⟨script.buffers.store.push buffer,
      script.buffers.names ++ [(buffer.name, script.buffers.store.nextId)]⟩ }

def pushFormat (script : Script) (format : Format) : Script :=
  (script.registerType format.type).registerFormat format

theorem apply_onBuffer {Result : Type} (id : Id Buffer) (operation : Edit Buffer Result)
    (script : Script) :
    (onBuffer id operation).apply script =
      match script.buffers.store.requireBuffer id with
      | .ok buffer => ((operation.apply buffer).1, script.setBuffer id (operation.apply buffer).2)
      | .error fault => (.error fault, script) := by
  rw [onBuffer, Edit.apply_bind_of_ok (Edit.apply_get script), Edit.apply_bind,
    Edit.apply_ofExcept]
  cases script.buffers.store.requireBuffer id <;> rfl

theorem apply_addBuffer (buffer : Buffer) (script : Script) :
    (addBuffer buffer).apply script =
      if (script.buffers.id? buffer.name).isSome then (.error (.nameTaken "buffer"), script)
      else (.ok script.buffers.store.nextId, script.pushBuffer buffer) := by
  rw [addBuffer, Edit.apply_onPart, Catalog.add, Edit.apply_bind_of_ok (Edit.apply_get _)]
  split <;> rfl

end Script

/-- The name of the buffer that is made when there are so many. -/
def Buffer.madeName (count : Nat) : String := s!"AutoBuf-{count}"

namespace Session

theorem apply_read {Result : Type} (reader : Reader Result) (session : Session) :
    (read reader).apply session =
      match reader.run session.words with
      | .ok (result, words) => (.ok result, { session with words })
      | .error fault => (.error fault, session) := rfl

theorem apply_onScript {Result : Type} (operation : Edit Script Result) (session : Session) :
    (onScript operation).apply session =
      ((operation.apply session.script).1,
        { session with script := (operation.apply session.script).2 }) := rfl

theorem apply_pipeline (session : Session) :
    pipeline.apply session =
      match session.script.pipelines.get? session.pipelineId with
      | some pipeline => (.ok pipeline, session)
      | none => (.error (.pipeline (.unknownPipeline session.pipelineId.index)), session) := by
  rw [pipeline, Edit.apply_bind_of_ok (Edit.apply_get session)]
  cases session.script.pipelines.get? session.pipelineId <;> rfl

theorem apply_changePipeline (change : Pipeline → Pipeline) (session : Session) :
    (changePipeline change).apply session =
      match session.script.pipelines.get? session.pipelineId with
      | some _ => (.ok ⟨⟩, { session with
          script := session.script.mapPipeline session.pipelineId change })
      | none => (.error (.pipeline (.unknownPipeline session.pipelineId.index)), session) := by
  rw [changePipeline, Edit.apply_bind_of_ok (Edit.apply_get session), apply_onScript,
    Script.onBench, Edit.apply_bind_of_ok (Edit.apply_get _), Edit.apply_bind]
  cases found : session.script.pipelines.get? session.pipelineId with
  | none =>
    rw [Script.bench?, found]
    rfl
  | some pipeline =>
    have changed : session.script.putBench session.pipelineId
        ⟨change pipeline, session.script.buffers.store, session.script.samplers.store⟩ =
          session.script.mapPipeline session.pipelineId change := by
      rw [Script.putBench, Script.mapPipeline, ← Store.set_eq_modify found]
    rw [Script.bench?, found, ← changed]
    rfl

theorem apply_onBuffer {Result : Type} (id : Id Buffer) (operation : Edit Buffer Result)
    (session : Session) :
    (onBuffer id operation).apply session =
      match session.script.buffers.store.requireBuffer id with
      | .ok buffer => ((operation.apply buffer).1, { session with
          script := session.script.setBuffer id (operation.apply buffer).2 })
      | .error fault => (.error fault, session) := by
  rw [onBuffer, apply_onScript, Script.apply_onBuffer]
  cases session.script.buffers.store.requireBuffer id <;> rfl

theorem apply_keepFormat (format : Format) (session : Session) :
    (keepFormat format).apply session =
      (.ok ⟨⟩, { session with script := session.script.pushFormat format }) := rfl

def freshBuffer (session : Session) : Buffer :=
  { name := s!"AutoBuf-{session.script.buffers.store.size}" }

theorem name_freshBuffer (session : Session) :
    session.freshBuffer.name = Buffer.madeName session.script.buffers.store.size := rfl

theorem apply_makeBuffer (session : Session) :
    makeBuffer.apply session =
      if (session.script.buffers.id? session.freshBuffer.name).isSome then
        (.error (.nameTaken "buffer"), session)
      else (.ok session.script.buffers.store.nextId, { session with
        script := session.script.pushBuffer session.freshBuffer }) := by
  rw [makeBuffer, Edit.apply_bind_of_ok (Edit.apply_get session), apply_onScript,
    Script.apply_addBuffer]
  by_cases taken : (session.script.buffers.id? session.freshBuffer.name).isSome
  · rw [if_pos taken]
    exact congrArg (fun outcome : Except Fault (Id Buffer) × Script =>
      (outcome.1, { session with script := outcome.2 })) (if_pos taken)
  · rw [if_neg taken]
    exact congrArg (fun outcome : Except Fault (Id Buffer) × Script =>
      (outcome.1, { session with script := outcome.2 })) (if_neg taken)

theorem apply_record (command : Command) (session : Session) :
    (record command).apply session =
      (.ok ⟨⟩, { session with commands := session.commands ++ [command] }) := rfl

end Session

end GpuScript
