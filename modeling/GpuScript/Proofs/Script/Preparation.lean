import GpuScript.Proofs.Pipeline.Preparation
import GpuScript.Proofs.Script.Copies

namespace GpuScript

namespace Script

theorem onBench_ok {id : Id Pipeline} {operation : Edit Workbench Unit} {script after : Script} :
    (onBench id operation).apply script = (.ok ⟨⟩, after) ↔
      ∃ pipeline bench, script.pipelines.get? id = some pipeline ∧
        operation.apply (script.benchOf pipeline) = (.ok ⟨⟩, bench) ∧
        after = script.putBench id bench := by
  rw [apply_onBench, bench?]
  cases script.pipelines.get? id with
  | none => simp
  | some pipeline =>
    dsimp only [Option.map_some]
    rw [Prod.mk.injEq]
    constructor
    · rintro ⟨done, rfl⟩
      exact ⟨pipeline, _, rfl, Prod.ext done rfl, rfl⟩
    · rintro ⟨_, bench, found, done, rfl⟩
      cases found
      have ran : operation.apply
          ⟨pipeline, script.buffers.store, script.samplers.store⟩ = (.ok ⟨⟩, bench) := done
      rw [ran]
      exact ⟨rfl, rfl⟩

/-- Prepares the kernels of some pipelines. -/
private def prepareEach (ids : List (Id Pipeline)) : Edit Script Unit :=
  ids.forM fun id => onBench id Workbench.prepareKernel

private theorem prepareEach_cons_ok {id : Id Pipeline} {ids : List (Id Pipeline)}
    {script after : Script} :
    (prepareEach (id :: ids)).apply script = (.ok ⟨⟩, after) ↔
      ∃ pipeline bench, script.pipelines.get? id = some pipeline ∧
        Workbench.prepareKernel.apply (script.benchOf pipeline) = (.ok ⟨⟩, bench) ∧
        (prepareEach ids).apply (script.putBench id bench) = (.ok ⟨⟩, after) := by
  rw [prepareEach, Edit.forM_cons_ok]
  simp only [onBench_ok]
  constructor
  · rintro ⟨_, ⟨pipeline, bench, found, ran, rfl⟩, rest⟩
    exact ⟨pipeline, bench, found, ran, rest⟩
  · rintro ⟨pipeline, bench, found, ran, rest⟩
    exact ⟨_, ⟨pipeline, bench, found, ran, rfl⟩, rest⟩

section Each

variable {ids : List (Id Pipeline)} {script after : Script}

theorem get?_putBench_of_ne {id other : Id Pipeline} (apart : id ≠ other) (bench : Workbench) :
    (script.putBench id bench).pipelines.get? other = script.pipelines.get? other :=
  Store.get?_set_of_ne _ apart _

theorem get?_putBench_self {id : Id Pipeline} {pipeline : Pipeline}
    (found : script.pipelines.get? id = some pipeline) (bench : Workbench) :
    (script.putBench id bench).pipelines.get? id = some bench.pipeline :=
  Store.get?_set_self found _

private theorem pipelines_prepareEach (ran : (prepareEach ids).apply script = (.ok ⟨⟩, after)) :
    after.pipelines.store.size = script.pipelines.store.size ∧
      ∀ other ∉ ids, after.pipelines.get? other = script.pipelines.get? other := by
  induction ids generalizing script with
  | nil =>
    cases ran
    exact ⟨rfl, fun _ _ => rfl⟩
  | cons id rest ih =>
    obtain ⟨pipeline, bench, found, -, ran⟩ := prepareEach_cons_ok.mp ran
    obtain ⟨size, kept⟩ := ih ran
    refine ⟨size.trans (Store.size_modify ..), fun other absent => ?_⟩
    obtain ⟨apart, later⟩ := List.ne_and_not_mem_of_not_mem_cons absent
    exact (kept other later).trans (get?_putBench_of_ne (Ne.symm apart) bench)

private theorem prepared_of_prepareEach (distinct : ids.Nodup)
    (ran : (prepareEach ids).apply script = (.ok ⟨⟩, after)) {id : Id Pipeline} (member : id ∈ ids)
    {pipeline : Pipeline} (found : script.pipelines.get? id = some pipeline) :
    ∃ bench prepared, bench.pipeline = pipeline ∧
      Workbench.prepareKernel.apply bench = (.ok ⟨⟩, prepared) ∧
      after.pipelines.get? id = some prepared.pipeline := by
  induction ids generalizing script with
  | nil => cases member
  | cons first rest ih =>
    obtain ⟨absent, distinct⟩ := List.nodup_cons.mp distinct
    obtain ⟨own, bench, present, prepared, ran⟩ := prepareEach_cons_ok.mp ran
    rcases List.mem_cons.mp member with rfl | later
    · cases present.symm.trans found
      refine ⟨_, bench, rfl, prepared, ?_⟩
      exact ((pipelines_prepareEach ran).2 id absent).trans (get?_putBench_self found bench)
    · have apart : first ≠ id := fun same => absent (same ▸ later)
      exact ih distinct ran later ((get?_putBench_of_ne apart bench).trans found)

/-- The pipelines that are asked for can be prepared twice. -/
def AllRepeatable (script : Script) (ids : List (Id Pipeline)) : Prop :=
  ∀ id ∈ ids, ∀ pipeline ∈ script.pipelines.get? id, pipeline.Repeatable

theorem AllRepeatable.rest {id : Id Pipeline} (repeatable : script.AllRepeatable (id :: ids))
    (distinct : (id :: ids).Nodup) (bench : Workbench) :
    (script.putBench id bench).AllRepeatable ids := by
  intro other member
  have apart : id ≠ other := fun same => (List.nodup_cons.mp distinct).1 (same ▸ member)
  rw [get?_putBench_of_ne apart]
  exact repeatable other (List.mem_cons_of_mem id member)

private theorem grows_prepareEach (distinct : ids.Nodup) (repeatable : script.AllRepeatable ids)
    (ran : (prepareEach ids).apply script = (.ok ⟨⟩, after)) :
    script.buffers.store.Grows after.buffers.store := by
  induction ids generalizing script with
  | nil =>
    cases ran
    exact .refl _
  | cons id rest ih =>
    obtain ⟨pipeline, bench, found, prepared, ran⟩ := prepareEach_cons_ok.mp ran
    have later := ih (List.nodup_cons.mp distinct).2 (repeatable.rest distinct bench) ran
    have first := Workbench.grows_prepareKernel prepared
      (repeatable id List.mem_cons_self pipeline found)
    exact first.trans later

/-- What has been prepared can be prepared again; at each step the buffers trail those of the first
run. -/
private theorem replay_prepareEach (again : Script) {final : Store Buffer} (distinct : ids.Nodup)
    (repeatable : script.AllRepeatable ids)
    (ran : (prepareEach ids).apply script = (.ok ⟨⟩, after))
    (same : ∀ id ∈ ids, again.pipelines.get? id = after.pipelines.get? id)
    (grows : after.buffers.store.Grows final)
    (trails : final.Trails script.buffers.store again.buffers.store) :
    ∃ buffers, (prepareEach ids).apply again = (.ok ⟨⟩, again.withBuffers buffers) ∧
      final.Trails after.buffers.store buffers := by
  induction ids generalizing script again with
  | nil =>
    cases ran
    exact ⟨again.buffers.store, rfl, trails⟩
  | cons id rest ih =>
    obtain ⟨absent, apart⟩ := List.nodup_cons.mp distinct
    obtain ⟨pipeline, bench, found, prepared, ran⟩ := prepareEach_cons_ok.mp ran
    have later := repeatable.rest distinct bench
    have held : again.pipelines.get? id = some bench.pipeline := by
      rw [same id List.mem_cons_self, (pipelines_prepareEach ran).2 id absent]
      exact get?_putBench_self found bench
    have growsBench := (grows_prepareEach apart later ran).trans grows
    obtain ⟨buffers, reprepared, trailing⟩ := Workbench.replay_prepareKernel
      (again.benchOf bench.pipeline) prepared
      (repeatable id List.mem_cons_self pipeline found) growsBench rfl trails
    have put : again.putBench id { again.benchOf bench.pipeline with buffers } =
        again.withBuffers buffers := by
      have kept : again.pipelines.store.set id bench.pipeline = again.pipelines.store :=
        Store.set_self held
      rw [putBench, benchOf, kept]
      rfl
    obtain ⟨stored, reran, trailed⟩ := ih (again.withBuffers buffers) apart later ran
      (fun other member => same other (List.mem_cons_of_mem id member)) trailing
    refine ⟨stored, prepareEach_cons_ok.mpr ⟨_, _, held, reprepared, ?_⟩, trailed⟩
    rw [put]
    exact reran

end Each

private theorem indexSamplers_size (script : Script) :
    script.indexSamplers script.samplers.store.size = script := by
  rw [indexSamplers, Catalog.indexFrom_size]

private theorem prepareKernels_ok {script after : Script} :
    prepareKernels.apply script = (.ok ⟨⟩, after) ↔
      ∃ prepared,
        (prepareEach (script.pipelines.store.idsFrom 0)).apply script = (.ok ⟨⟩, prepared) ∧
        after = (prepared.indexBuffers script.buffers.store.size).indexSamplers
          script.samplers.store.size := by
  rw [prepareKernels, Edit.apply_bind_of_ok (Edit.apply_get script), Edit.bind_ok]
  constructor
  · rintro ⟨_, prepared, ran, rest⟩
    exact ⟨prepared, ran, (Prod.mk.inj rest).2.symm⟩
  · rintro ⟨prepared, ran, rfl⟩
    exact ⟨⟨⟩, prepared, ran, rfl⟩

/-- Preparing the kernels of a script once more changes nothing exactly when each of them can be
prepared twice. -/
theorem prepareKernels_again_iff {script after : Script}
    (ran : prepareKernels.apply script = (.ok ⟨⟩, after)) :
    prepareKernels.apply after = (.ok ⟨⟩, after) ↔
      ∀ id pipeline, script.pipelines.get? id = some pipeline → pipeline.Repeatable := by
  obtain ⟨prepared, ran, indexed⟩ := prepareKernels_ok.mp ran
  have pipelines : after.pipelines = prepared.pipelines := by rw [indexed]; rfl
  have buffers : after.buffers.store = prepared.buffers.store := by
    rw [indexed]
    exact Catalog.store_indexFrom _ _
  have distinct := script.pipelines.store.nodup_idsFrom 0
  have ids : after.pipelines.store.idsFrom 0 = script.pipelines.store.idsFrom 0 := by
    rw [Store.idsFrom, Store.idsFrom, pipelines, (pipelines_prepareEach ran).1]
  rw [prepareKernels_ok, ids]
  constructor
  · rintro ⟨final, reran, same⟩ id pipeline found
    have member := Store.mem_idsFrom_zero found
    obtain ⟨bench, done, rfl, first, present⟩ :=
      prepared_of_prepareEach distinct ran member found
    rw [← pipelines] at present
    obtain ⟨again, redone, kept, second, held⟩ :=
      prepared_of_prepareEach distinct reran member present
    have unchanged : final.pipelines = after.pipelines := by rw [same]; rfl
    rw [unchanged, present] at held
    exact Workbench.repeatable_of_again first kept second
      ((Option.some.inj held).symm.trans kept.symm)
  · intro repeatable
    have each : script.AllRepeatable (script.pipelines.store.idsFrom 0) :=
      fun id _ pipeline found => repeatable id pipeline found
    obtain ⟨stored, reran, trailed⟩ := replay_prepareEach after distinct each ran
      (fun id _ => by rw [pipelines]) (.refl _)
      (buffers ▸ Store.trails_start prepared.buffers.store script.buffers.store)
    have settled : after.withBuffers stored = after :=
      withBuffers_eq_iff.mpr (trailed.eq.trans buffers.symm)
    refine ⟨after, settled ▸ reran, ?_⟩
    rw [indexBuffers_size, indexSamplers_size]

/-- A kernel whose argument has a value is prepared once. -/
theorem prepareKernels_again_iff_argument :
    let scale : ArgumentEntry := { name := "scale", kind := .pod, size := 1 }
    let kernel : AttachedShader :=
      { shader := ⟨0⟩
        name := "double"
        format := .openClC
        stage := .compute
        argumentMap := [("main", [scale])] }
    let work : Pipeline :=
      { name := "work"
        kind := .compute
        shaders := [kernel]
        argumentValues := [⟨"scale", 0, .unsignedByte, .integer 2⟩] }
    let script : Script := { pipelines := ⟨⟨#[work]⟩, [("work", ⟨0⟩)]⟩ }
    let outcome := prepareKernels.apply script
    outcome.1 = .ok ⟨⟩ ∧ outcome.2.buffers.store.size = 1 ∧
      prepareKernels.apply outcome.2 = (.ok ⟨⟩, outcome.2) := by
  intro scale kernel work script outcome
  have done : outcome.1 = .ok ⟨⟩ := by decide +revert +kernel
  have stored : outcome.2.buffers.store.size = 1 := by
    clear done
    decide +revert +kernel
  have pushless : ∀ attached ∈ work.kernel?, attached.pushConstants = [] := by
    clear done stored
    decide +revert +kernel
  have closed : work.openingAt? work.argumentEntries work.argumentValues .unbound = none := by
    clear done stored pushless
    decide +revert +kernel
  have repeatable : work.Repeatable :=
    ⟨pushless, fun entry opened => nomatch closed.symm.trans opened⟩
  have ran : outcome = (.ok ⟨⟩, outcome.2) := Prod.ext done rfl
  refine ⟨done, stored, (prepareKernels_again_iff ran).mpr fun id pipeline found => ?_⟩
  have only : pipeline = work := Array.mem_singleton.mp (Array.mem_of_getElem? found)
  exact only ▸ repeatable

/-- The push constants of a kernel get their buffer once, and not another one. -/
theorem prepareKernels_again_dimensions :
    let kernel : AttachedShader :=
      { shader := ⟨0⟩
        name := "double"
        format := .openClC
        stage := .compute
        argumentMap := [("main", [])]
        pushConstants := [⟨.dimensions, 0, 4⟩] }
    let work : Pipeline := { name := "work", kind := .compute, shaders := [kernel] }
    let script : Script := { pipelines := ⟨⟨#[work]⟩, [("work", ⟨0⟩)]⟩ }
    let outcome := prepareKernels.apply script
    outcome.1 = .ok ⟨⟩ ∧
      (prepareKernels.apply outcome.2).1 = .error (.pipeline .pushConstantsBound) := by
  decide +kernel

end Script

end GpuScript
