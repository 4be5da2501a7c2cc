import GpuScript.Proofs.Pipeline.Copies
import GpuScript.Proofs.Script.Catalog
import GpuScript.Script.Basic

namespace GpuScript

namespace Store

variable {Item : Type}

theorem set_self {store : Store Item} {id : Id Item} {item : Item}
    (found : store.get? id = some item) : store.set id item = store := by
  apply ext_get?
  intro other
  by_cases same : id = other
  · subst other
    rw [get?_set_self found, found]
  · exact get?_set_of_ne store same item

/-- A store that keeps all that was in it has become longer. -/
theorem toList_eq_append {before after : Store Item}
    (older : ∀ id, id.index < before.size → after.get? id = before.get? id) :
    ∃ added, after.toList = before.toList ++ added := by
  refine ⟨after.toList.drop before.size, ?_⟩
  have same : after.toList.take before.size = before.toList := by
    apply List.ext_getElem?
    intro index
    rw [List.getElem?_take]
    by_cases bound : index < before.size
    · rw [if_pos bound]
      exact (Array.getElem?_toList ..).trans ((older ⟨index⟩ bound).trans
        (Array.getElem?_toList ..).symm)
    · rw [if_neg bound]
      exact (List.getElem?_eq_none (Nat.le_of_not_lt bound)).symm
  rw [← same, List.take_append_drop]

end Store

namespace Pipeline

/-- Values of kernel arguments get storage when the pipeline has none yet: the first of them has an
entry, and that is one for push constants or at a slot without a buffer. -/
def NeedsStorage (pipeline : Pipeline) : Prop :=
  ∃ entries argument rest entry, pipeline.kernelArguments? = some entries ∧
    pipeline.argumentValues = argument :: rest ∧
    entries.find? (·.holds argument) = some entry ∧
    (entry.kind = .podPushConstant ∨ pipeline.bufferAt? entry.slot = none)

/-- The copy of a pipeline with storage for values of kernel arguments needs storage of its own. -/
def CopyNeedsStorage (source : Pipeline) : Prop :=
  source.argumentBuffers ≠ [] ∧ (source.freshCopy source.name).NeedsStorage

end Pipeline

namespace Workbench

/-- There are more buffers than some number. -/
private def Exceeds (size : Nat) (bench : Workbench) : Prop := size < bench.buffers.size

private theorem lasting_exceeds (size : Nat) : Lasting (Exceeds size) where
  pushConstants bench _ exceeds := by
    rw [Exceeds, size_withPushConstants]
    exact Nat.lt_succ_of_lt exceeds
  arguments bench slot argument _ exceeds := by
    rw [Exceeds, size_withArgumentBuffer]
    exact Nat.lt_succ_of_lt exceeds
  contents bench id _ after _ _ _ exceeds := by
    rw [Exceeds, size_setBuffer]
    exact exceeds

private theorem exceeds_withPushConstants (bench : Workbench) :
    Exceeds bench.buffers.size bench.withPushConstants := by
  rw [Exceeds, size_withPushConstants]
  exact Nat.lt_succ_self _

private theorem exceeds_withArgumentBuffer (bench : Workbench) (slot : BindingSlot)
    (argument : ArgumentKind) :
    Exceeds bench.buffers.size (bench.withArgumentBuffer slot argument) := by
  rw [Exceeds, size_withArgumentBuffer]
  exact Nat.lt_succ_self _

section Fresh

variable {bench : Workbench} (unstored : bench.pipeline.argumentBuffers = [])
include unstored

private theorem exceeds_argumentBuffer (unpushed : bench.pipeline.pushConstants = none)
    (kernel : String)
    (argument : ArgumentValue) {entry : ArgumentEntry}
    (placed : entry.kind = .podPushConstant ∨ bench.pipeline.bufferAt? entry.slot = none) :
    Edit.Leads (· = bench) (Exceeds bench.buffers.size) (Provides (Exceeds bench.buffers.size))
      (argumentBuffer kernel argument (some entry)) := by
  unfold argumentBuffer
  dsimp only
  by_cases pushed : entry.kind = .podPushConstant
  · rw [if_pos pushed]
    refine Edit.leads_get_bind fun seen same => ?_
    subst seen
    rw [unpushed]
    rintro start rfl
    rw [apply_makePushConstantBuffer, unpushed]
    exact ⟨exceeds_withPushConstants start, .inr ⟨_, rfl, rfl⟩⟩
  · rw [if_neg pushed]
    refine Edit.leads_get_bind fun seen same => ?_
    subst seen
    rw [unstored]
    refine Edit.leads_bind ?_ (provides_sized (lasting_exceeds _) kernel argument entry)
    rintro start rfl
    rw [apply_makeArgumentBuffer, placed.resolve_left pushed]
    exact ⟨exceeds_withArgumentBuffer start _ _,
      .inl ⟨entry.slot, by simp [withArgumentBuffer]⟩⟩

private theorem exceeds_makeArgumentBuffers (unpushed : bench.pipeline.pushConstants = none)
    (needed : bench.pipeline.NeedsStorage) :
    Exceeds bench.buffers.size (makeArgumentBuffers.apply bench).2 := by
  obtain ⟨entries, argument, rest, entry, known, given, found, placed⟩ := needed
  obtain ⟨kernel, present, -⟩ := Option.bind_eq_some_iff.mp known
  rw [makeArgumentBuffers, Edit.apply_bind_of_ok (Edit.apply_get bench)]
  dsimp only
  rw [present, known, given]
  have lasting := lasting_exceeds bench.buffers.size
  have stored : Edit.Leads (· = bench) (Exceeds bench.buffers.size)
      (fun _ => Exceeds bench.buffers.size)
      (storeArguments kernel.entryPoint entries (argument :: rest)) := by
    rw [storeArguments, found]
    refine Edit.leads_bind (exceeds_argumentBuffer unstored unpushed _ argument placed) fun id => ?_
    refine Edit.leads_bind (lasting.onBuffer (Buffer.fills_setDataAt _ _)) fun _ => ?_
    exact fun bench provided => (maintains_storeArguments lasting _ _ _).leads bench provided.1
  have reached := stored bench rfl
  cases ran : (storeArguments kernel.entryPoint entries (argument :: rest)).apply bench with
  | mk outcome after =>
    rw [ran] at reached
    cases outcome with
    | ok done => exact reached
    | error fault => exact reached

/-- An argument that finds no place is refused. -/
theorem argumentBuffer_unchanged (kernel : String) (argument : ArgumentValue)
    {entry : Option ArgumentEntry}
    (unplaced : ∀ place ∈ entry, ¬(place.kind = .podPushConstant ∨
      bench.pipeline.bufferAt? place.slot = none)) :
    ∃ fault, (argumentBuffer kernel argument entry).apply bench = (.error fault, bench) := by
  unfold argumentBuffer
  cases entry with
  | none => exact ⟨_, rfl⟩
  | some place =>
    obtain ⟨unpushed, taken⟩ := not_or.mp (unplaced place rfl)
    obtain ⟨existing, bound⟩ := Option.ne_none_iff_exists'.mp taken
    dsimp only
    rw [if_neg unpushed, Edit.apply_bind_of_ok (Edit.apply_get bench), unstored]
    have refused := apply_makeArgumentBuffer place.slot place.kind bench
    rw [bound] at refused
    exact ⟨_, Edit.apply_bind_of_error refused _⟩

private theorem makeArgumentBuffers_unchanged (spared : ¬bench.pipeline.NeedsStorage) :
    (makeArgumentBuffers.apply bench).2 = bench := by
  rw [makeArgumentBuffers, Edit.apply_bind_of_ok (Edit.apply_get bench)]
  dsimp only
  split
  · rename_i kernel entries present known
    cases given : bench.pipeline.argumentValues with
    | nil => rfl
    | cons argument rest =>
      rw [storeArguments]
      have unplaced : ∀ place ∈ entries.find? (·.holds argument),
          ¬(place.kind = .podPushConstant ∨ bench.pipeline.bufferAt? place.slot = none) :=
        fun place found placed =>
          spared ⟨entries, argument, rest, place, known, given, found, placed⟩
      obtain ⟨fault, refused⟩ :=
        argumentBuffer_unchanged unstored kernel.entryPoint argument unplaced
      rw [Edit.apply_bind_of_error refused]
  · rfl

end Fresh

/-- Copying makes buffers exactly when the copy needs storage. -/
theorem copyPipeline_buffers_iff {bench after : Workbench} {name : String}
    {outcome : Except Fault Pipeline}
    (copied : (copyPipeline name).apply bench = (outcome, after)) :
    after.buffers = bench.buffers ↔ ¬bench.pipeline.CopyNeedsStorage := by
  rw [apply_copyPipeline] at copied
  by_cases unstored : bench.pipeline.argumentBuffers = []
  · rw [if_pos (List.isEmpty_iff.mpr unstored)] at copied
    cases copied
    exact iff_of_true rfl fun needed => needed.1 unstored
  · rw [if_neg (by simpa using unstored)] at copied
    have buffers : after.buffers = (makeArgumentBuffers.apply (bench.withCopy name)).2.buffers := by
      cases ran : makeArgumentBuffers.apply (bench.withCopy name) with
      | mk result made =>
        rw [ran] at copied
        cases result <;> cases copied <;> rfl
    rw [buffers]
    by_cases needed : bench.pipeline.CopyNeedsStorage
    · refine iff_of_false (fun same => ?_) (not_not_intro needed)
      have exceeds := @exceeds_makeArgumentBuffers (bench.withCopy name) rfl rfl needed.2
      rw [Exceeds, same] at exceeds
      exact Nat.lt_irrefl _ exceeds
    · refine iff_of_true ?_ needed
      have spared : ¬(bench.withCopy name).pipeline.NeedsStorage :=
        fun stored => needed ⟨unstored, stored⟩
      rw [makeArgumentBuffers_unchanged rfl spared]
      rfl

end Workbench

namespace Script

theorem apply_onBench {Result : Type} (id : Id Pipeline) (operation : Edit Workbench Result)
    (script : Script) :
    (onBench id operation).apply script =
      match script.bench? id with
      | some bench => ((operation.apply bench).1, script.putBench id (operation.apply bench).2)
      | none => (.error (.pipeline (.unknownPipeline id.index)), script) := by
  rw [onBench, Edit.apply_bind_of_ok (Edit.apply_get script), Edit.apply_bind]
  cases script.bench? id <;> rfl

def withBuffers (script : Script) (buffers : Store Buffer) : Script :=
  { script with buffers := { script.buffers with store := buffers } }

def benchOf (script : Script) (pipeline : Pipeline) : Workbench :=
  { pipeline, buffers := script.buffers.store, samplers := script.samplers.store }

theorem maintains_onBench {Result : Type} {holds : Script → Prop} {id : Id Pipeline}
    {operation : Edit Workbench Result}
    (kept : ∀ script pipeline, script.pipelines.get? id = some pipeline → holds script →
      holds (script.putBench id (operation.apply (script.benchOf pipeline)).2)) :
    Edit.Maintains holds (onBench id operation) := by
  intro script held
  rw [apply_onBench]
  cases found : script.pipelines.get? id with
  | none =>
    rw [bench?, found]
    exact held
  | some pipeline =>
    rw [bench?, found]
    exact kept script pipeline found held

theorem apply_copyPipeline_unknown {script : Script} {source : Id Pipeline}
    (unknown : script.pipelines.get? source = none) (name : String) :
    (copyPipeline source name).apply script =
      (.error (.pipeline (.unknownPipeline source.index)), script) := by
  have refused : (onBench source (Workbench.copyPipeline name)).apply script =
      (.error (.pipeline (.unknownPipeline source.index)), script) := by
    rw [apply_onBench, bench?, unknown]
    rfl
  rw [copyPipeline, Edit.apply_bind_of_ok (Edit.apply_get script),
    Edit.apply_bind_of_error refused]

/-- A copy of a pipeline that is there: buffers made for it are kept, and named unless making them
has failed. -/
theorem copyPipeline_parts {script : Script} {source : Id Pipeline} {pipeline : Pipeline}
    (found : script.pipelines.get? source = some pipeline) (name : String) :
    ∃ outcome made, Workbench.Stocks script.buffers.store made ∧
      (Workbench.copyPipeline name).apply (script.benchOf pipeline) =
        (outcome, { script.benchOf pipeline with buffers := made.buffers }) ∧
      (copyPipeline source name).apply script =
        match outcome with
        | .ok copy =>
          (addPipeline copy).apply
            ((script.withBuffers made.buffers).indexBuffers script.buffers.store.size)
        | .error fault => (.error fault, script.withBuffers made.buffers) := by
  cases copied : (Workbench.copyPipeline name).apply (script.benchOf pipeline) with
  | mk outcome after =>
    have begun := Workbench.stocks_withCopy (script.benchOf pipeline) name
    obtain ⟨made, stocks, rfl, -⟩ := (Workbench.lasting_stocks _).copyPipeline begun copied
    refine ⟨outcome, made, stocks, rfl, ?_⟩
    have bench : script.bench? source = some (script.benchOf pipeline) := by
      rw [bench?, found]
      rfl
    have kept : script.putBench source { script.benchOf pipeline with buffers := made.buffers } =
        script.withBuffers made.buffers := by
      have same : script.pipelines.store.set source pipeline = script.pipelines.store :=
        Store.set_self found
      rw [putBench, benchOf, same]
      rfl
    have ran : (onBench source (Workbench.copyPipeline name)).apply script =
        (outcome, script.withBuffers made.buffers) := by
      rw [apply_onBench, bench]
      dsimp only
      rw [copied, kept]
    rw [copyPipeline, Edit.apply_bind_of_ok (Edit.apply_get script)]
    cases outcome with
    | error fault => rw [Edit.apply_bind_of_error ran]
    | ok copy =>
      rw [Edit.apply_bind_of_ok ran]
      rfl

private theorem name_of_copied {bench after : Workbench} {name : String} {copy : Pipeline}
    (copied : (Workbench.copyPipeline name).apply bench = (.ok copy, after)) :
    copy.name = name := by
  have lasting := (Workbench.enduring_outline fun outline => outline.name = name).toLasting
  obtain ⟨made, named, -, same⟩ := lasting.copyPipeline rfl copied
  rw [same copy rfl]
  exact named

theorem withBuffers_eq_iff {script : Script} {buffers : Store Buffer} :
    script.withBuffers buffers = script ↔ buffers = script.buffers.store := by
  constructor
  · intro same
    exact congrArg (fun script => script.buffers.store) same
  · rintro rfl
    rfl

theorem indexBuffers_size (script : Script) :
    script.indexBuffers script.buffers.store.size = script := by
  rw [indexBuffers, Catalog.indexFrom_size]

private theorem apply_addPipeline (pipeline : Pipeline) (script : Script) :
    (addPipeline pipeline).apply script =
      if (script.pipelines.id? pipeline.name).isSome then
        (.error (.nameTaken "pipeline"), script)
      else (.ok script.pipelines.store.nextId,
        { script with pipelines := script.pipelines.declare pipeline.name pipeline }) := by
  rw [addPipeline, Edit.apply_onPart, Catalog.apply_add]
  split <;> rfl

/-- A copy that is refused leaves the script as it was, but for the buffers that were made for it
before. They are added behind those that were there, and are in the index where it is the name of
the copy that is refused. The script is as it was exactly when the pipeline is unknown or its copy
needs no storage. -/
theorem copyPipeline_refused {script after : Script} {source : Id Pipeline} {name : String}
    {fault : Fault} (refused : (copyPipeline source name).apply script = (.error fault, after)) :
    after = { script with buffers := after.buffers } ∧
      (∃ made, after.buffers.store.toList = script.buffers.store.toList ++ made) ∧
      (after.buffers.names = script.buffers.names ∨
        fault = .nameTaken "pipeline" ∧ (script.pipelines.id? name).isSome ∧
          after = (script.withBuffers after.buffers.store).indexBuffers
            script.buffers.store.size) ∧
      (after = script ↔
        ∀ pipeline ∈ script.pipelines.get? source, ¬pipeline.CopyNeedsStorage) := by
  cases found : script.pipelines.get? source with
  | none =>
    rw [apply_copyPipeline_unknown found] at refused
    cases refused
    exact ⟨rfl, ⟨[], (List.append_nil _).symm⟩, .inl rfl, iff_of_true rfl (by simp)⟩
  | some pipeline =>
    obtain ⟨outcome, made, stocks, copied, ran⟩ := copyPipeline_parts found name
    rw [ran] at refused
    have spared : made.buffers = script.buffers.store ↔ ¬pipeline.CopyNeedsStorage :=
      Workbench.copyPipeline_buffers_iff copied
    have only : (∀ other ∈ some pipeline, ¬other.CopyNeedsStorage) ↔
        ¬pipeline.CopyNeedsStorage := by simp
    obtain ⟨added, appended⟩ := Store.toList_eq_append stocks.older
    rw [only, ← spared]
    cases outcome with
    | error fault =>
      cases refused
      exact ⟨rfl, ⟨added, appended⟩, .inl rfl, withBuffers_eq_iff⟩
    | ok copy =>
      dsimp only at refused
      rw [apply_addPipeline, name_of_copied copied] at refused
      split at refused
      · rename_i taken
        cases refused
        have store : ((script.withBuffers made.buffers).indexBuffers
            script.buffers.store.size).buffers.store = made.buffers :=
          Catalog.store_indexFrom _ _
        refine ⟨rfl, ⟨added, by rw [store, appended]⟩, .inr ⟨rfl, taken, by rw [store]⟩, ?_⟩
        constructor
        · intro same
          rw [same] at store
          exact store.symm
        · intro same
          rw [withBuffers_eq_iff.mpr same]
          exact indexBuffers_size script
      · cases refused

/-- A pipeline without a kernel needs no storage: its copy to a taken name leaves no trace. -/
theorem copyPipeline_refused_drawing :
    let drawing : Pipeline := { name := "drawing", kind := .graphics }
    let other : Pipeline := { name := "other", kind := .graphics }
    let script : Script :=
      { pipelines := ⟨⟨#[drawing, other]⟩, [("drawing", ⟨0⟩), ("other", ⟨1⟩)]⟩ }
    let outcome := (copyPipeline ⟨0⟩ "other").apply script
    outcome.1 = .error (.nameTaken "pipeline") ∧ ¬drawing.CopyNeedsStorage ∧
      outcome.2 = script := by
  intro drawing other script outcome
  have refused : outcome.1 = .error (.nameTaken "pipeline") := rfl
  have spared : ¬drawing.CopyNeedsStorage := fun needed => needed.1 rfl
  refine ⟨refused, spared, ?_⟩
  obtain ⟨-, -, -, unchanged⟩ := copyPipeline_refused (Prod.ext refused rfl)
  refine unchanged.mpr fun pipeline found => ?_
  have same : drawing = pipeline := Option.some.inj found
  exact same ▸ spared

/-- The copy of a kernel to a taken name leaves the buffer that was made for its argument. -/
theorem copyPipeline_refused_kernel :
    let argument : ArgumentEntry := { name := "scale", kind := .pod, size := 1 }
    let kernel : AttachedShader :=
      { shader := ⟨0⟩
        name := "double"
        format := .openClC
        stage := .compute
        argumentMap := [("main", [argument])] }
    let source : Pipeline :=
      { name := "work"
        kind := .compute
        shaders := [kernel]
        buffers := [{ buffer := ⟨0⟩, kind := .storage }]
        argumentValues := [⟨"scale", 0, .unsignedByte, .integer 2⟩]
        argumentBuffers := [({}, ⟨0⟩)] }
    let other : Pipeline := { name := "other", kind := .compute }
    let buffer : Buffer :=
      { name := "work_pod_buffer_0_0", kind := .storage, format := some .unsignedByte }
    let script : Script :=
      { pipelines := ⟨⟨#[source, other]⟩, [("work", ⟨0⟩), ("other", ⟨1⟩)]⟩
        buffers := ⟨⟨#[buffer]⟩, [("work_pod_buffer_0_0", ⟨0⟩)]⟩ }
    let outcome := (copyPipeline ⟨0⟩ "other").apply script
    outcome.1.isOk = false ∧
      outcome.2.buffers.id? "other_pod_buffer_0_0" = some ⟨1⟩ ∧
      script.buffers.id? "other_pod_buffer_0_0" = none := by
  decide +kernel

end Script

end GpuScript
