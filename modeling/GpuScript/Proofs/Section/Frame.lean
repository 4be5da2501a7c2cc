import GpuScript.Proofs.Except
import GpuScript.Proofs.Section.Faults
import GpuScript.Proofs.Section.Operations

namespace GpuScript

def Pipeline.withState (pipeline : Pipeline) (state : RasterState) : Pipeline :=
  { pipeline with state }

namespace Script

def withState (script : Script) (id : Id Pipeline) (state : RasterState) : Script :=
  script.mapPipeline id (·.withState state)

def stateAt? (script : Script) (id : Id Pipeline) : Option RasterState :=
  (script.pipelines.get? id).map Pipeline.state

theorem get?_mapPipeline (script : Script) (id other : Id Pipeline) (change : Pipeline → Pipeline) :
    (script.mapPipeline id change).pipelines.get? other =
      if id = other then (script.pipelines.get? other).map change
      else script.pipelines.get? other :=
  Store.get?_modify script.pipelines.store id other change

/-- A change of a pipeline that neither looks at its state nor changes it. -/
structure SparesState (change : Pipeline → Pipeline) : Prop where
  blind : ∀ pipeline state, change (pipeline.withState state) = (change pipeline).withState state

theorem SparesState.state {change : Pipeline → Pipeline} (spares : SparesState change)
    (pipeline : Pipeline) : (change pipeline).state = pipeline.state := by
  have blind := congrArg Pipeline.state (spares.blind pipeline pipeline.state)
  exact blind

private theorem stateAt?_mapPipeline {change : Pipeline → Pipeline} (spares : SparesState change)
    (script : Script) (id other : Id Pipeline) :
    (script.mapPipeline id change).stateAt? other = script.stateAt? other := by
  rw [stateAt?, stateAt?, get?_mapPipeline]
  split
  · rw [Option.map_map]
    exact congrArg (Option.map · _) (funext spares.state)
  · rfl

private theorem mapPipeline_withState {change : Pipeline → Pipeline} (spares : SparesState change)
    (script : Script) (id : Id Pipeline) (state : RasterState) :
    (script.withState id state).mapPipeline id change =
      (script.mapPipeline id change).withState id state := by
  have same : change ∘ (·.withState state) = (·.withState state) ∘ change :=
    funext fun pipeline => spares.blind pipeline state
  simp only [withState, mapPipeline, Store.modify_modify, same]

theorem withState_withState (script : Script) (id : Id Pipeline) (first next : RasterState) :
    (script.withState id first).withState id next = script.withState id next := by
  simp only [withState, mapPipeline, Store.modify_modify]
  rfl

theorem withState_stateAt? {script : Script} {id : Id Pipeline} {state : RasterState}
    (stored : script.stateAt? id = some state) : script.withState id state = script := by
  have same : script.pipelines.store.modify id (·.withState state) = script.pipelines.store := by
    apply Store.ext_get?
    intro other
    rw [Store.get?_modify]
    split
    · subst other
      obtain ⟨pipeline, found, rfl⟩ := Option.map_eq_some_iff.mp stored
      change script.pipelines.store.get? id = some pipeline at found
      rw [found]
      rfl
    · rfl
  simp only [withState, mapPipeline, same]

/-- An edit of a script that has nothing to do with its pipelines. -/
structure Aside {Result : Type} (operation : Edit Script Result) : Prop where
  blind : ∀ script id state, operation.apply (script.withState id state) =
    ((operation.apply script).1, (operation.apply script).2.withState id state)
  stored : ∀ script id, (operation.apply script).2.stateAt? id = script.stateAt? id
  plain : ∀ script, Plain (operation.apply script).1

theorem aside_addBuffer (buffer : Buffer) : Aside (addBuffer buffer) := by
  constructor
  · intro script id state
    rw [apply_addBuffer, apply_addBuffer]
    change (if (script.buffers.id? buffer.name).isSome then _ else _) = _
    split <;> rfl
  · intro script id
    rw [apply_addBuffer]
    split <;> rfl
  · intro script
    rw [apply_addBuffer]
    split
    · exact .error rfl
    · exact .ok _

theorem aside_onBuffer {Result : Type} {operation : Edit Buffer Result}
    (plain : ∀ buffer, Plain (operation.apply buffer).1) (buffer : Id Buffer) :
    Aside (onBuffer buffer operation) := by
  constructor
  · intro script id state
    have buffers : (script.withState id state).buffers = script.buffers := rfl
    rw [apply_onBuffer, apply_onBuffer, buffers]
    cases script.buffers.store.requireBuffer buffer <;> rfl
  · intro script id
    rw [apply_onBuffer]
    cases script.buffers.store.requireBuffer buffer <;> rfl
  · intro script
    rw [apply_onBuffer, Store.requireBuffer]
    cases script.buffers.store.get? buffer with
    | none => exact .error rfl
    | some found => exact plain found

theorem aside_pushFormat (format : Format) :
    Aside (modify fun script : Script => script.pushFormat format) :=
  ⟨fun _ _ _ => rfl, fun _ _ => rfl, fun _ => .ok _⟩

theorem aside_registerFormat (format : Format) :
    Aside (modify fun script : Script => script.registerFormat format) :=
  ⟨fun _ _ _ => rfl, fun _ _ => rfl, fun _ => .ok _⟩

end Script

namespace Session

variable {Result Next : Type}

/-- The session with another state stored in its pipeline and with commands before its own. -/
def shadow (session : Session) (state : RasterState) (earlier : List Command) : Session :=
  { session with
    script := session.script.withState session.pipelineId state
    commands := earlier ++ session.commands }

/-- The sessions before and after an operation that only reads tokens and edits buffers and
bindings. -/
structure Kept (before after : Session) : Prop where
  pipelineId : after.pipelineId = before.pipelineId
  stored : ∀ id, after.script.stateAt? id = before.script.stateAt? id
  commands : after.commands = before.commands
  state : after.state = before.state
  tolerances : after.tolerances = before.tolerances

theorem Kept.refl (session : Session) : Kept session session :=
  ⟨rfl, fun _ => rfl, rfl, rfl, rfl⟩

theorem Kept.trans {first next last : Session} (left : Kept first next) (right : Kept next last) :
    Kept first last where
  pipelineId := right.pipelineId.trans left.pipelineId
  stored id := (right.stored id).trans (left.stored id)
  commands := right.commands.trans left.commands
  state := right.state.trans left.state
  tolerances := right.tolerances.trans left.tolerances

/-- What an operation gives back when its session is replaced by a shadow of it. -/
abbrev Veil (Result : Type) : Type := RasterState → List Command → Result → Result

/-- An operation sees a shadow of its session through a veil only. -/
def Blind (veil : Veil Result) (operation : Edit Session Result) : Prop :=
  ∀ session state earlier, operation.apply (session.shadow state earlier) =
    ((operation.apply session).1.map (veil state earlier),
      (operation.apply session).2.shadow state earlier)

/-- The veil of an operation that does not see a shadow at all. -/
abbrev unseen : Veil Result := fun _ _ result => result

theorem blind_bind {veil : Veil Result} {first : Edit Session Result}
    {next : Result → Edit Session Next} (blind : Blind veil first)
    (same : ∀ state earlier result, next (veil state earlier result) = next result)
    (rest : ∀ result, Blind unseen (next result)) : Blind unseen (first >>= next) := by
  intro session state earlier
  rw [Edit.apply_bind, Edit.apply_bind, blind session state earlier]
  rcases first.apply session with ⟨outcome, after⟩
  cases outcome with
  | error fault => rfl
  | ok result =>
    change (next (veil state earlier result)).apply (after.shadow state earlier) = _
    rw [same]
    exact rest result after state earlier

/-- An operation that only reads tokens and edits buffers and bindings, and sees a shadow through a
veil. -/
structure Veiled (veil : Veil Result) (operation : Edit Session Result) : Prop where
  blind : Blind veil operation
  kept : ∀ session, Kept session (operation.apply session).2
  plain : ∀ session, Plain (operation.apply session).1

/-- An operation that only reads tokens and edits buffers and bindings, and does not see a
shadow. -/
abbrev Quiet (operation : Edit Session Result) : Prop := Veiled unseen operation

/-- A command. It does not see a shadow, leaves the stored state alone, and when it fails leaves
the recorded commands and the state of the section alone; under a condition it leaves the
tolerances alone. -/
structure Steady (keeps : Prop) (operation : Edit Session Result) : Prop where
  blind : Blind unseen operation
  plain : ∀ session, Plain (operation.apply session).1
  pipelineId : ∀ session, (operation.apply session).2.pipelineId = session.pipelineId
  stored : ∀ session id, (operation.apply session).2.script.stateAt? id = session.script.stateAt? id
  tolerances : keeps → ∀ session, (operation.apply session).2.tolerances = session.tolerances
  rollback : ∀ session fault, (operation.apply session).1 = .error fault →
    (operation.apply session).2.commands = session.commands ∧
      (operation.apply session).2.state = session.state

theorem Veiled.steady {operation : Edit Session Result} (quiet : Quiet operation) (keeps : Prop) :
    Steady keeps operation where
  blind := quiet.blind
  plain := quiet.plain
  pipelineId session := (quiet.kept session).pipelineId
  stored session := (quiet.kept session).stored
  tolerances _ session := (quiet.kept session).tolerances
  rollback session _ _ := ⟨(quiet.kept session).commands, (quiet.kept session).state⟩

section Bind

variable {veil : Veil Result} {first : Edit Session Result} {next : Result → Edit Session Next}

theorem Veiled.bindThrough (seen : Veiled veil first)
    (same : ∀ state earlier result, next (veil state earlier result) = next result)
    (rest : ∀ result, Quiet (next result)) : Quiet (first >>= next) := by
  refine ⟨blind_bind seen.blind same fun result => (rest result).blind, ?_, ?_⟩
  · intro session
    rw [Edit.apply_bind]
    have kept := seen.kept session
    split <;> rename_i found <;> rw [found] at kept
    · exact kept.trans ((rest _).kept _)
    · exact kept
  · intro session
    rw [Edit.apply_bind]
    have plain := seen.plain session
    split <;> rename_i found <;> rw [found] at plain
    · exact (rest _).plain _
    · exact .error (plain _ rfl)

theorem Veiled.steadyThrough {keeps : Prop} (seen : Veiled veil first)
    (same : ∀ state earlier result, next (veil state earlier result) = next result)
    (rest : ∀ result, Steady keeps (next result)) : Steady keeps (first >>= next) := by
  have run (session : Session) :
      (∃ result after, Kept session after ∧
        (first >>= next).apply session = (next result).apply after) ∨
      ∃ fault after, Kept session after ∧ fault.isLocated = false ∧
        (first >>= next).apply session = (.error fault, after) := by
    have kept := seen.kept session
    have plain := seen.plain session
    rw [Edit.apply_bind]
    split <;> rename_i found <;> rw [found] at kept plain
    · exact .inl ⟨_, _, kept, rfl⟩
    · exact .inr ⟨_, _, kept, plain _ rfl, rfl⟩
  refine ⟨blind_bind seen.blind same fun result => (rest result).blind, ?_, ?_, ?_, ?_, ?_⟩
  · intro session
    rcases run session with ⟨result, after, kept, same⟩ | ⟨fault, after, kept, plain, same⟩
    · rw [same]
      exact (rest result).plain after
    · rw [same]
      exact .error plain
  · intro session
    rcases run session with ⟨result, after, kept, same⟩ | ⟨fault, after, kept, plain, same⟩
    · rw [same, (rest result).pipelineId, kept.pipelineId]
    · rw [same, kept.pipelineId]
  · intro session id
    rcases run session with ⟨result, after, kept, same⟩ | ⟨fault, after, kept, plain, same⟩
    · rw [same, (rest result).stored, kept.stored]
    · rw [same, kept.stored]
  · intro keep session
    rcases run session with ⟨result, after, kept, same⟩ | ⟨fault, after, kept, plain, same⟩
    · rw [same, (rest result).tolerances keep, kept.tolerances]
    · rw [same, kept.tolerances]
  · intro session fault failed
    rcases run session with ⟨result, after, kept, same⟩ | ⟨fault, after, kept, plain, same⟩
    · rw [same] at failed ⊢
      have rolled := (rest result).rollback after fault failed
      rwa [kept.commands, kept.state] at rolled
    · rw [same]
      exact ⟨kept.commands, kept.state⟩

theorem Veiled.bind (quiet : Quiet first) (rest : ∀ result, Quiet (next result)) :
    Quiet (first >>= next) :=
  quiet.bindThrough (fun _ _ _ => rfl) rest

theorem Veiled.bindSteady {keeps : Prop} (quiet : Quiet first)
    (rest : ∀ result, Steady keeps (next result)) : Steady keeps (first >>= next) :=
  quiet.steadyThrough (fun _ _ _ => rfl) rest

end Bind

theorem quiet_pure (result : Result) : Quiet (pure result) :=
  ⟨fun _ _ _ => rfl, .refl, fun _ => .ok result⟩

theorem quiet_throw {fault : Fault} (plain : fault.isLocated = false) :
    Quiet (throw fault : Edit Session Result) :=
  ⟨fun _ _ _ => rfl, .refl, fun _ => .error plain⟩

theorem quiet_read {reader : Reader Result} (plain : reader.IsPlain) : Quiet (read reader) := by
  constructor
  · intro session state earlier
    have words : (session.shadow state earlier).words = session.words := rfl
    rw [apply_read, apply_read, words]
    cases reader.run session.words <;> rfl
  · intro session
    rw [apply_read]
    cases reader.run session.words <;> exact ⟨rfl, fun _ => rfl, rfl, rfl, rfl⟩
  · intro session
    rw [apply_read]
    have unlocated := plain session.words
    cases found : reader.run session.words with
    | ok reading => exact .ok _
    | error fault =>
      rw [found] at unlocated
      exact .error (unlocated fault rfl)

theorem veiled_get :
    Veiled (fun state earlier session => session.shadow state earlier)
      (get : Edit Session Session) :=
  ⟨fun _ _ _ => rfl, .refl, fun _ => .ok _⟩

theorem veiled_pipeline : Veiled (fun state _ pipeline => pipeline.withState state) pipeline := by
  constructor
  · intro session state earlier
    rw [apply_pipeline, apply_pipeline]
    have found : (session.shadow state earlier).script.pipelines.get?
        (session.shadow state earlier).pipelineId =
          (session.script.pipelines.get? session.pipelineId).map (·.withState state) :=
      (Script.get?_mapPipeline ..).trans (if_pos rfl)
    rw [found]
    cases session.script.pipelines.get? session.pipelineId <;> rfl
  · intro session
    rw [apply_pipeline]
    split <;> exact .refl session
  · intro session
    rw [apply_pipeline]
    split
    · exact .ok _
    · exact .error rfl

theorem quiet_onScript {operation : Edit Script Result} (aside : Script.Aside operation) :
    Quiet (onScript operation) := by
  constructor
  · intro session state earlier
    have script : (session.shadow state earlier).script =
        session.script.withState session.pipelineId state := rfl
    rw [apply_onScript, apply_onScript, script, aside.blind, map_id]
    rfl
  · intro session
    exact ⟨rfl, aside.stored session.script, rfl, rfl, rfl⟩
  · intro session
    exact aside.plain session.script

theorem quiet_changePipeline {change : Pipeline → Pipeline} (spares : Script.SparesState change) :
    Quiet (changePipeline change) := by
  constructor
  · intro session state earlier
    rw [apply_changePipeline, apply_changePipeline]
    have found : (session.shadow state earlier).script.pipelines.get?
        (session.shadow state earlier).pipelineId =
          (session.script.pipelines.get? session.pipelineId).map (·.withState state) :=
      (Script.get?_mapPipeline ..).trans (if_pos rfl)
    rw [found]
    cases session.script.pipelines.get? session.pipelineId with
    | none => rfl
    | some pipeline =>
      have script : (session.shadow state earlier).script.mapPipeline session.pipelineId change =
          (session.script.mapPipeline session.pipelineId change).withState session.pipelineId
            state := Script.mapPipeline_withState spares ..
      simp only [Option.map_some]
      exact congrArg (fun script => (Except.ok PUnit.unit,
        { session.shadow state earlier with script })) script
  · intro session
    rw [apply_changePipeline]
    split
    · exact ⟨rfl, Script.stateAt?_mapPipeline spares _ _, rfl, rfl, rfl⟩
    · exact .refl session
  · intro session
    rw [apply_changePipeline]
    split
    · exact .ok _
    · exact .error rfl

theorem Veiled.guard {condition : Prop} [Decidable condition] {refusal : Edit Session PUnit}
    {rest : PUnit → Edit Session Next} (quiet : Quiet refusal) (after : Quiet (rest ⟨⟩)) :
    Quiet (if condition then refusal >>= rest else rest ⟨⟩) := by
  split
  · exact quiet.bind fun _ => after
  · exact after

theorem Steady.guard {keeps condition : Prop} [Decidable condition]
    {refusal : Edit Session PUnit} {rest : PUnit → Edit Session Next} (quiet : Quiet refusal)
    (after : Steady keeps (rest ⟨⟩)) :
    Steady keeps (if condition then refusal >>= rest else rest ⟨⟩) := by
  split
  · exact quiet.bindSteady fun _ => after
  · exact after

theorem Veiled.onState {next : Session → Edit Session Next}
    (same : ∀ session state earlier, next (session.shadow state earlier) = next session)
    (rest : ∀ session, Quiet (next session)) : Quiet (get >>= next) :=
  veiled_get.bindThrough (fun state earlier session => same session state earlier) rest

theorem Steady.onState {keeps : Prop} {next : Session → Edit Session Next}
    (same : ∀ session state earlier, next (session.shadow state earlier) = next session)
    (rest : ∀ session, Steady keeps (next session)) : Steady keeps (get >>= next) :=
  veiled_get.steadyThrough (fun state earlier session => same session state earlier) rest

theorem quiet_headAt (line : Nat) : Quiet (headAt line) :=
  .onState (fun _ _ _ => rfl) fun _ => quiet_pure _

theorem steady_record (keeps : Prop) (command : Command) : Steady keeps (record command) where
  blind session state earlier := by
    rw [apply_record, apply_record]
    simp only [shadow, List.append_assoc]
    rfl
  plain _ := .ok _
  pipelineId _ := rfl
  stored _ _ := rfl
  tolerances _ _ := rfl
  rollback _ _ failed := by cases failed

theorem steady_changeState (keeps : Prop) (change : RasterState → RasterState) :
    Steady keeps (changeState change) where
  blind _ _ _ := rfl
  plain _ := .ok _
  pipelineId _ := rfl
  stored _ _ := rfl
  tolerances _ _ := rfl
  rollback _ _ failed := by cases failed

theorem steady_changeStateRecord (keeps : Prop) (change : RasterState → RasterState)
    (command : Command) : Steady keeps (do changeState change; record command) where
  blind session state earlier := by
    change (_, { session.shadow state earlier with
      state := change session.state
      commands := earlier ++ session.commands ++ [command] }) = _
    rw [List.append_assoc]
    rfl
  plain _ := .ok _
  pipelineId _ := rfl
  stored _ _ := rfl
  tolerances _ _ := rfl
  rollback _ _ failed := by cases failed

end Session

end GpuScript
