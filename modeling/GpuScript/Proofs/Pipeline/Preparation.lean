import GpuScript.Proofs.Pipeline.Placing
import GpuScript.Proofs.Pipeline.Replay

namespace GpuScript

namespace SamplerBinding

/-- A binding that has a sampler, or no mask to make one from. -/
private def Made (binding : SamplerBinding) : Prop :=
  binding.sampler.isSome ∨ binding.mask = wordMax

end SamplerBinding

namespace Workbench

private theorem makeSamplers_of_made {bindings : List SamplerBinding}
    (made : ∀ binding ∈ bindings, binding.Made) (samplers : Store Sampler) :
    makeSamplers samplers bindings = (bindings, samplers, []) := by
  induction bindings with
  | nil => rfl
  | cons binding rest ih =>
    obtain ⟨first, later⟩ := List.forall_mem_cons.mp made
    have kept : (binding.sampler.isSome || binding.mask == wordMax) = true := by
      simpa [SamplerBinding.Made] using first
    rw [makeSamplers, if_pos kept, ih later]

/-- Each binding gets a sampler unless it has one or no mask. -/
private theorem forall₂_makeSamplers (bindings : List SamplerBinding) (samplers : Store Sampler) :
    List.Forall₂ (fun binding made => made.Made ∧ ∃ sampler, made = { binding with sampler })
      bindings (makeSamplers samplers bindings).1 := by
  induction bindings generalizing samplers with
  | nil => exact .nil
  | cons binding rest ih =>
    rw [makeSamplers]
    by_cases kept : (binding.sampler.isSome || binding.mask == wordMax) = true
    · rw [if_pos kept]
      refine .cons ⟨?_, binding.sampler, rfl⟩ (ih samplers)
      simpa [SamplerBinding.Made] using kept
    · rw [if_neg kept]
      exact .cons ⟨.inl rfl, _, rfl⟩ (ih _)

private theorem makeLiteralSamplers_of_made {bench : Workbench}
    (made : ∀ binding ∈ bench.pipeline.samplers, binding.Made) :
    makeLiteralSamplers bench = bench := by
  rw [makeLiteralSamplers, makeSamplers_of_made made, List.append_nil]

end Workbench

/-- The entry that a buffer is made for at a slot: that of the first value there, where the slot
has no buffer yet. -/
def Pipeline.openingAt? (pipeline : Pipeline) (entries : List ArgumentEntry)
    (arguments : List ArgumentValue) (slot : BindingSlot) : Option ArgumentEntry :=
  if pipeline.storageAt? (some slot) = none then
    (placedAt entries arguments (some slot)).head?.map Prod.fst
  else none

def ArgumentEntry.binding (entry : ArgumentEntry) (buffer : Id Buffer) : BufferBinding :=
  { buffer, kind := Workbench.argumentBufferKind entry.kind, slot := entry.slot }

/-- The bindings that are added for values: one for each slot that the values open. -/
structure Pipeline.Opens (pipeline : Pipeline) (entries : List ArgumentEntry)
    (arguments : List ArgumentValue) (added : List BufferBinding) : Prop where
  only : ∀ binding ∈ added, ∃ entry id, binding = entry.binding id ∧
    pipeline.openingAt? entries arguments binding.slot = some entry
  all : ∀ slot entry, pipeline.openingAt? entries arguments slot = some entry →
    entry.slot = slot ∧ ∃ id, entry.binding id ∈ added

theorem Pipeline.opens_nil {pipeline : Pipeline} {entries : List ArgumentEntry}
    {arguments : List ArgumentValue} (unplaced : ∀ place, placedAt entries arguments place = []) :
    pipeline.Opens entries arguments [] := by
  refine ⟨List.forall_mem_nil _, fun slot entry opened => ?_⟩
  rw [openingAt?, unplaced] at opened
  cases opened.symm.trans (ite_self none)

namespace Workbench

private theorem equipped_bindings {bench : Workbench} {entry : ArgumentEntry}
    (opens : ¬(entry.place = some entry.slot ∧
      bench.pipeline.storageAt? (some entry.slot) = none)) :
    (bench.equipped entry).pipeline.buffers = bench.pipeline.buffers := by
  cases there : bench.pipeline.storageAt? entry.place with
  | some id => rw [equipped_of_some there]
  | none =>
    rw [equipped, there]
    cases located : entry.place with
    | none => rfl
    | some slot =>
      cases (ArgumentEntry.place_eq_some.mp located).2
      exact absurd ⟨located, located ▸ there⟩ opens

section Opening

variable {entries : List ArgumentEntry} {argument : ArgumentValue} {entry : ArgumentEntry}
  (found : argument.entry? entries = some entry) {rest : List ArgumentValue} {bench : Workbench}
include found

private theorem openingAt?_cons_of_opens {slot : BindingSlot} (located : entry.place = some slot)
    (unused : bench.pipeline.storageAt? (some slot) = none) :
    bench.pipeline.openingAt? entries (argument :: rest) slot = some entry := by
  rw [Pipeline.openingAt?, if_pos unused, placedAt_cons found, if_pos located]
  rfl

theorem openingAt?_cons_of_not {slot : BindingSlot}
    (other : ¬(entry.place = some slot ∧ bench.pipeline.storageAt? (some slot) = none)) :
    bench.pipeline.openingAt? entries (argument :: rest) slot =
      (bench.equipped entry).pipeline.openingAt? entries rest slot := by
  unfold Pipeline.openingAt?
  cases there : bench.pipeline.storageAt? (some slot) with
  | some id =>
    rw [storageAt?_equipped_of_some there]
    rfl
  | none =>
    have apart : entry.place ≠ some slot := fun located => other ⟨located, there⟩
    rw [storageAt?_equipped_of_ne apart.symm, there, placedAt_cons found, if_neg apart]

variable {added : List BufferBinding}
  (later : (bench.equipped entry).pipeline.Opens entries rest added)
include later

/-- The binding of a slot that is opened comes before those of the rest, which do not open it. -/
theorem opens_cons_of_opens (located : entry.place = some entry.slot)
    (unused : bench.pipeline.storageAt? (some entry.slot) = none) (id : Id Buffer) :
    bench.pipeline.Opens entries (argument :: rest) (entry.binding id :: added) := by
  have opened : bench.pipeline.openingAt? entries (argument :: rest) entry.slot = some entry :=
    openingAt?_cons_of_opens found located unused
  have closed : (bench.equipped entry).pipeline.openingAt? entries rest entry.slot = none := by
    refine if_neg ?_
    rw [storageAt?_equipped (located.symm ▸ unused), if_pos located.symm]
    exact Option.some_ne_none _
  have left {slot : BindingSlot} (apart : slot ≠ entry.slot) :
      bench.pipeline.openingAt? entries (argument :: rest) slot =
        (bench.equipped entry).pipeline.openingAt? entries rest slot :=
    openingAt?_cons_of_not found fun opens =>
      apart (ArgumentEntry.place_eq_some.mp opens.1).2.symm
  refine ⟨List.forall_mem_cons.mpr ⟨⟨entry, id, rfl, opened⟩, fun binding member => ?_⟩,
    fun slot other opening => ?_⟩
  · obtain ⟨other, held, same, opening⟩ := later.only binding member
    have apart : binding.slot ≠ entry.slot := fun same => by
      rw [same, closed] at opening
      cases opening
    exact ⟨other, held, same, (left apart).trans opening⟩
  · by_cases same : slot = entry.slot
    · subst same
      cases opened.symm.trans opening
      exact ⟨rfl, id, List.mem_cons_self⟩
    · obtain ⟨placed, held, member⟩ := later.all slot other ((left same).symm.trans opening)
      exact ⟨placed, held, List.mem_cons_of_mem _ member⟩

private theorem opens_cons_of_not (opens : ¬(entry.place = some entry.slot ∧
    bench.pipeline.storageAt? (some entry.slot) = none)) :
    bench.pipeline.Opens entries (argument :: rest) added := by
  have same (slot : BindingSlot) : bench.pipeline.openingAt? entries (argument :: rest) slot =
      (bench.equipped entry).pipeline.openingAt? entries rest slot := by
    refine openingAt?_cons_of_not found fun opened => opens ?_
    rw [(ArgumentEntry.place_eq_some.mp opened.1).2]
    exact opened
  constructor
  · simp only [same]
    exact later.only
  · simp only [same]
    exact later.all

end Opening

/-- Storing values adds the bindings of the slots that they open. -/
theorem bindings_storeArguments {kernel : String} {entries : List ArgumentEntry}
    {arguments : List ArgumentValue} {bench after : Workbench}
    (ran : (storeArguments kernel entries arguments).apply bench = (.ok ⟨⟩, after)) :
    ∃ added, after.pipeline.buffers = bench.pipeline.buffers ++ added ∧
      bench.pipeline.Opens entries arguments added := by
  induction arguments generalizing bench with
  | nil =>
    cases ran
    exact ⟨[], (List.append_nil _).symm, Pipeline.opens_nil fun _ => rfl⟩
  | cons argument rest ih =>
    obtain ⟨entry, id, buffer, changed, found, -, -, -, -, ran⟩ := storeArguments_cons_ok.mp ran
    obtain ⟨added, appended, later⟩ := ih ran
    by_cases opens : entry.place = some entry.slot ∧
        bench.pipeline.storageAt? (some entry.slot) = none
    · obtain ⟨located, unused⟩ := opens
      have made : bench.equipped entry = bench.withArgumentBuffer entry.slot entry.kind := by
        rw [equipped, located, unused]
      refine ⟨entry.binding bench.buffers.nextId :: added, ?_,
        opens_cons_of_opens found later located unused _⟩
      rw [appended, made, List.append_cons]
      rfl
    · have kept := equipped_bindings opens
      exact ⟨added, appended.trans (congrArg (· ++ added) kept),
        opens_cons_of_not found later opens⟩

theorem bindings_makeArgumentBuffers {bench after : Workbench}
    (made : makeArgumentBuffers.apply bench = (.ok ⟨⟩, after)) :
    ∃ added, after.pipeline.buffers = bench.pipeline.buffers ++ added ∧
      bench.pipeline.Opens bench.pipeline.argumentEntries bench.pipeline.argumentValues added := by
  rcases makeArgumentBuffers_ok made with ⟨unknown, rfl⟩ | ⟨kernel, ran⟩
  · refine ⟨[], (List.append_nil _).symm, Pipeline.opens_nil fun place => ?_⟩
    rw [unknown]
    exact List.filterMap_eq_nil_iff.mpr fun _ _ => rfl
  · exact bindings_storeArguments ran

private theorem samplers_makeArgumentBuffers {bench after : Workbench}
    (made : makeArgumentBuffers.apply bench = (.ok ⟨⟩, after)) :
    after.pipeline.samplers = bench.pipeline.samplers := by
  have lasting : Lasting fun other => other.pipeline.samplers = bench.pipeline.samplers :=
    ⟨fun _ _ held => held, fun _ _ _ _ held => held, fun _ _ _ _ _ _ _ held => held⟩
  have kept := maintains_makeArgumentBuffers lasting bench rfl
  rw [made] at kept
  exact kept

/-- Storing values makes buffers grow, and places keep theirs. -/
theorem grows_makeArgumentBuffers {bench after : Workbench}
    (made : makeArgumentBuffers.apply bench = (.ok ⟨⟩, after)) :
    bench.buffers.Grows after.buffers ∧
      ∀ place id, bench.pipeline.storageAt? place = some id →
        after.pipeline.storageAt? place = some id := by
  rcases makeArgumentBuffers_ok made with ⟨-, rfl⟩ | ⟨kernel, ran⟩
  · exact ⟨.refl _, fun _ _ there => there⟩
  · exact grows_storeArguments ran

end Workbench

namespace Pipeline

/-- A buffer that is made at the slot of bindings without a place would stay there: all entries that
its binding may be placed by are of its kind, and the last of them has no place either. -/
def Settles (pipeline : Pipeline) : Prop :=
  ∀ entry ∈ pipeline.openingAt? pipeline.argumentEntries pipeline.argumentValues .unbound,
    (∀ other ∈ entriesOf pipeline.argumentEntries "" wordMax,
      BufferKind.ofArgument? other.kind = some (Workbench.argumentBufferKind entry.kind)) ∧
    ∀ last ∈ (entriesOf pipeline.argumentEntries "" wordMax).getLast?, last.slot = .unbound

/-- A pipeline whose kernel can be prepared a second time: it reads no push constants, and what is
made for it is placed for good. -/
structure Repeatable (pipeline : Pipeline) : Prop where
  pushless : ∀ kernel ∈ pipeline.kernel?, kernel.pushConstants = []
  settles : pipeline.Settles

end Pipeline

namespace Workbench

private theorem makePushConstants_of_pushless {bench : Workbench}
    (pushless : ∀ kernel ∈ bench.pipeline.kernel?, kernel.pushConstants = []) :
    makePushConstants.apply bench = (.ok ⟨⟩, bench) := by
  rw [makePushConstants, Edit.apply_bind_of_ok (Edit.apply_get bench)]
  cases present : bench.pipeline.kernel? with
  | none => rfl
  | some kernel =>
    dsimp only
    rw [pushless kernel present]
    rfl

/-- Push constants get a buffer where there was none. -/
theorem makePushConstants_ok {bench after : Workbench} {kernel : AttachedShader}
    (present : bench.pipeline.kernel? = some kernel) (reads : kernel.pushConstants ≠ [])
    (made : makePushConstants.apply bench = (.ok ⟨⟩, after)) :
    bench.pipeline.pushConstants = none ∧ after.pipeline.pushConstants.isSome := by
  have some : ¬kernel.pushConstants.isEmpty = true := List.isEmpty_iff.not.mpr reads
  rw [makePushConstants, Edit.apply_bind_of_ok (Edit.apply_get bench), present] at made
  dsimp only at made
  rw [if_neg some] at made
  obtain ⟨id, between, provided, filled⟩ := Edit.bind_ok.mp made
  rw [apply_makePushConstantBuffer] at provided
  split at provided
  · cases provided
  · rename_i unbound
    cases provided
    obtain ⟨buffer, changed, -, -, rfl⟩ := onBuffer_ok.mp filled
    exact ⟨Option.not_isSome_iff_eq_none.mp unbound, rfl⟩

/-- All preparation of a kernel but that of its push constants: bindings are placed, samplers made
for their masks and values stored. -/
private def Furnishes (bench stored : Workbench) : Prop :=
  ∃ samplers bindings,
    List.Forall₂ (fun binding placed =>
      (SamplerBinding.resolve bench.pipeline.argumentEntries binding).apply binding =
        (.ok ⟨⟩, placed)) bench.pipeline.samplers samplers ∧
    List.Forall₂ (fun binding placed =>
      (BufferBinding.resolve bench.buffers bench.pipeline.argumentEntries binding).apply binding =
        (.ok ⟨⟩, placed)) bench.pipeline.buffers bindings ∧
    makeArgumentBuffers.apply (makeLiteralSamplers
      { bench with pipeline := { bench.pipeline with samplers, buffers := bindings } }) =
      (.ok ⟨⟩, stored)

private theorem prepareKernel_ok {bench after : Workbench} :
    prepareKernel.apply bench = (.ok ⟨⟩, after) ↔
      ∃ stored, bench.Furnishes stored ∧ makePushConstants.apply stored = (.ok ⟨⟩, after) := by
  rw [prepareKernel, Edit.apply_bind_of_ok (Edit.apply_get bench)]
  simp only [Edit.bind_ok, onPipeline, Edit.onPart_ok, Edit.apply_modify]
  constructor
  · rintro ⟨_, _, ⟨placed, place, rfl⟩, _, _, literals, _, stored, made, pushed⟩
    cases literals
    obtain ⟨samplers, bindings, rfl, sampled, bound⟩ := Pipeline.placeArguments_ok.mp place
    exact ⟨stored, ⟨samplers, bindings, sampled, bound, made⟩, pushed⟩
  · rintro ⟨stored, ⟨samplers, bindings, sampled, bound, made⟩, pushed⟩
    have place := Pipeline.placeArguments_ok.mpr ⟨samplers, bindings, rfl, sampled, bound⟩
    exact ⟨⟨⟩, _, ⟨_, place, rfl⟩, ⟨⟩, _, rfl, ⟨⟩, stored, made, pushed⟩

private theorem Furnishes.kept {bench stored : Workbench} (furnishes : bench.Furnishes stored) :
    stored.pipeline.kernel? = bench.pipeline.kernel? ∧
      ∀ place id, bench.pipeline.storageAt? place = some id →
        stored.pipeline.storageAt? place = some id := by
  obtain ⟨samplers, bindings, -, -, made⟩ := furnishes
  have outline := outline_makeArgumentBuffers (makeLiteralSamplers
    { bench with pipeline := { bench.pipeline with samplers, buffers := bindings } })
  rw [made] at outline
  refine ⟨(Pipeline.kernel_of_outline outline).1, fun place id there => ?_⟩
  refine (grows_makeArgumentBuffers made).2 place id ?_
  cases place <;> exact there

/-- A kernel that reads no push constants has been prepared when its values are stored. -/
private theorem prepareKernel_pushless {bench after : Workbench}
    (pushless : ∀ kernel ∈ bench.pipeline.kernel?, kernel.pushConstants = []) :
    prepareKernel.apply bench = (.ok ⟨⟩, after) ↔ bench.Furnishes after := by
  rw [prepareKernel_ok]
  have unpushed {stored : Workbench} (furnishes : bench.Furnishes stored) :
      makePushConstants.apply stored = (.ok ⟨⟩, stored) :=
    makePushConstants_of_pushless (furnishes.kept.1 ▸ pushless)
  constructor
  · rintro ⟨stored, furnishes, pushed⟩
    rw [unpushed furnishes] at pushed
    cases pushed
    exact furnishes
  · intro furnishes
    exact ⟨after, furnishes, unpushed furnishes⟩

theorem outline_prepareKernel {bench after : Workbench}
    (ran : prepareKernel.apply bench = (.ok ⟨⟩, after)) :
    after.pipeline.outline = bench.pipeline.outline := by
  have kept := maintains_prepareKernel (enduring_outline (· = bench.pipeline.outline)) bench rfl
  rw [ran] at kept
  exact kept

theorem argumentEntries_prepareKernel {bench after : Workbench}
    (ran : prepareKernel.apply bench = (.ok ⟨⟩, after)) :
    after.pipeline.argumentEntries = bench.pipeline.argumentEntries :=
  congrArg (·.getD []) (Pipeline.kernel_of_outline (outline_prepareKernel ran)).2.1

/-- The bindings of a prepared pipeline stay where they are if those that were made for it do. -/
private theorem settled_prepareKernel {bench after again : Workbench}
    (ran : prepareKernel.apply bench = (.ok ⟨⟩, after)) (repeatable : bench.pipeline.Repeatable)
    (same : again.pipeline = after.pipeline) :
    (∀ binding ∈ again.pipeline.samplers, binding.Made ∧
      (SamplerBinding.resolve again.pipeline.argumentEntries binding).apply binding =
        (.ok ⟨⟩, binding)) ∧
    ∀ binding ∈ again.pipeline.buffers,
      (BufferBinding.resolve again.buffers again.pipeline.argumentEntries binding).apply binding =
        (.ok ⟨⟩, binding) := by
  obtain ⟨samplers, bindings, sampled, bound, made⟩ :=
    (prepareKernel_pushless repeatable.pushless).mp ran
  have entries := argumentEntries_prepareKernel ran
  obtain ⟨added, appended, opens⟩ := bindings_makeArgumentBuffers made
  have literals := samplers_makeArgumentBuffers made
  rw [← same] at entries appended literals
  rw [entries]
  refine ⟨fun binding member => ?_, fun binding member => ?_⟩
  · rw [literals] at member
    obtain ⟨placed, held, supplied, sampler, rfl⟩ :=
      exists_of_forall₂ (forall₂_makeSamplers samplers bench.samplers) member
    obtain ⟨original, -, resolved⟩ := exists_of_forall₂ sampled held
    exact ⟨supplied, SamplerBinding.resolve_again resolved sampler⟩
  · rw [appended] at member
    rcases List.mem_append.mp member with older | recent
    · obtain ⟨original, -, resolved⟩ := exists_of_forall₂ bound older
      exact BufferBinding.resolve_again resolved again.buffers
    · obtain ⟨entry, id, rfl, opened⟩ := opens.only binding recent
      by_cases unbound : (entry.binding id).slot = .unbound
      · rw [unbound] at opened
        exact (BufferBinding.resolve_unbound_iff unbound).mpr (repeatable.settles entry opened)
      · exact congrArg (Edit.apply · _) (if_neg (mt beq_iff_eq.mp unbound))

/-- A kernel that has been prepared can be prepared again, also after others: nothing is made, and
what is stored is stored once more. -/
theorem replay_prepareKernel (again : Workbench) {bench after : Workbench} {final : Store Buffer}
    (ran : prepareKernel.apply bench = (.ok ⟨⟩, after)) (repeatable : bench.pipeline.Repeatable)
    (grows : after.buffers.Grows final) (same : again.pipeline = after.pipeline)
    (trails : final.Trails bench.buffers again.buffers) :
    ∃ buffers, prepareKernel.apply again = (.ok ⟨⟩, { again with buffers }) ∧
      final.Trails after.buffers buffers := by
  obtain ⟨samplers, bindings, -, -, made⟩ := (prepareKernel_pushless repeatable.pushless).mp ran
  obtain ⟨sampled, bound⟩ := settled_prepareKernel ran repeatable same
  obtain ⟨buffers, remade, trailing⟩ := replay_makeArgumentBuffers made grows same trails
  have kernel : again.pipeline.kernel? = bench.pipeline.kernel? :=
    same ▸ (Pipeline.kernel_of_outline (outline_prepareKernel ran)).1
  refine ⟨buffers, (prepareKernel_pushless (kernel ▸ repeatable.pushless)).mpr ?_, trailing⟩
  refine ⟨_, _, List.forall₂_same.mpr fun binding member => (sampled binding member).2,
    List.forall₂_same.mpr bound, ?_⟩
  rw [← remade]
  exact congrArg (Edit.apply makeArgumentBuffers)
    (makeLiteralSamplers_of_made fun binding member => (sampled binding member).1)

theorem grows_prepareKernel {bench after : Workbench}
    (ran : prepareKernel.apply bench = (.ok ⟨⟩, after)) (repeatable : bench.pipeline.Repeatable) :
    bench.buffers.Grows after.buffers := by
  obtain ⟨samplers, bindings, -, -, made⟩ := (prepareKernel_pushless repeatable.pushless).mp ran
  exact (grows_makeArgumentBuffers made).1

/-- A kernel that reads push constants is not prepared again: their buffer is there. -/
theorem pushless_of_again {bench after again final : Workbench}
    (ran : prepareKernel.apply bench = (.ok ⟨⟩, after)) (same : again.pipeline = after.pipeline)
    (reran : prepareKernel.apply again = (.ok ⟨⟩, final)) :
    ∀ kernel ∈ bench.pipeline.kernel?, kernel.pushConstants = [] := by
  intro kernel present
  by_contra reads
  obtain ⟨stored, furnishes, pushed⟩ := prepareKernel_ok.mp ran
  obtain ⟨restored, refurnishes, repushed⟩ := prepareKernel_ok.mp reran
  obtain ⟨kept, places⟩ := refurnishes.kept
  rw [same, (Pipeline.kernel_of_outline (outline_prepareKernel ran)).1] at kept
  obtain ⟨-, bound⟩ := makePushConstants_ok (furnishes.kept.1.trans present) reads pushed
  obtain ⟨unbound, -⟩ := makePushConstants_ok (kept.trans present) reads repushed
  obtain ⟨binding, found⟩ := Option.isSome_iff_exists.mp (same ▸ bound)
  have there := places none binding.buffer (by rw [Pipeline.storageAt?, found]; rfl)
  rw [Pipeline.storageAt?, unbound] at there
  cases there

/-- A kernel that can be prepared again without a change is repeatable. -/
theorem repeatable_of_again {bench after again final : Workbench}
    (ran : prepareKernel.apply bench = (.ok ⟨⟩, after)) (same : again.pipeline = after.pipeline)
    (reran : prepareKernel.apply again = (.ok ⟨⟩, final))
    (unchanged : final.pipeline = again.pipeline) : bench.pipeline.Repeatable := by
  have pushless := pushless_of_again ran same reran
  have kernel : again.pipeline.kernel? = bench.pipeline.kernel? :=
    same ▸ (Pipeline.kernel_of_outline (outline_prepareKernel ran)).1
  refine ⟨pushless, fun entry opened => ?_⟩
  obtain ⟨_, _, -, -, made⟩ := (prepareKernel_pushless pushless).mp ran
  obtain ⟨_, bindings, -, bound, remade⟩ := (prepareKernel_pushless (kernel ▸ pushless)).mp reran
  obtain ⟨_, appended, opens⟩ := bindings_makeArgumentBuffers made
  obtain ⟨more, reappended, -⟩ := bindings_makeArgumentBuffers remade
  obtain ⟨unbound, id, member⟩ := opens.all .unbound entry opened
  -- Placing keeps the number of bindings, so the second run has added none.
  have kept : bindings = again.pipeline.buffers := by
    have total : again.pipeline.buffers = bindings ++ more := unchanged ▸ reappended
    have length := bound.length_eq
    rw [total, List.length_append, Nat.add_eq_left, List.length_eq_zero_iff] at length
    rw [total, length, List.append_nil]
  have held : entry.binding id ∈ again.pipeline.buffers := by
    rw [same, appended]
    exact List.mem_append_right _ member
  rw [kept] at bound
  have settled := List.forall₂_same.mp bound (entry.binding id) held
  rw [same, argumentEntries_prepareKernel ran] at settled
  exact (BufferBinding.resolve_unbound_iff unbound).mp settled

end Workbench

end GpuScript
