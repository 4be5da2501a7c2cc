import GpuScript.Proofs.Pipeline.Bindings
import GpuScript.Proofs.Pipeline.Placing
import GpuScript.Proofs.Pipeline.Replay

/-! The storage of values and what is bound. A buffer that is made for values is recorded twice, by
the slot that it was made for and as a binding at that slot. Values go to the recorded buffer, and a
kernel reads the bound one, so the two records have to agree. -/
namespace GpuScript

namespace Pipeline

/-- The buffer that has been made for a slot, where there is one, is the one that is bound there. -/
def InStep (pipeline : Pipeline) (slot : BindingSlot) : Prop :=
  ∀ id, pipeline.storageAt? (some slot) = some id → pipeline.bufferAt? slot = some id

end Pipeline

namespace Workbench

private theorem bufferAt?_equipped_of_some {bench : Workbench} {entry : ArgumentEntry}
    {slot : BindingSlot} {id : Id Buffer}
    (there : bench.pipeline.storageAt? (some slot) = some id) :
    (bench.equipped entry).pipeline.bufferAt? slot = bench.pipeline.bufferAt? slot := by
  cases own : bench.pipeline.storageAt? entry.place with
  | some other => rw [equipped_of_some own]
  | none =>
    obtain ⟨made, -, -, -, bound⟩ := equipped_of_none own
    have apart : entry.place ≠ some slot := fun located => by
      rw [located, there] at own
      cases own
    rw [bound, if_neg apart, Option.or_none]

/-- Storage that is made for a value is bound where it is recorded, and other storage is left
alone. -/
theorem inStep_equipped {bench : Workbench} {entry : ArgumentEntry} {argument : ArgumentValue}
    (admits : bench.pipeline.Admits entry argument) (slot : BindingSlot) :
    (bench.equipped entry).pipeline.InStep slot ↔ bench.pipeline.InStep slot := by
  cases there : bench.pipeline.storageAt? (some slot) with
  | some id =>
    unfold Pipeline.InStep
    rw [storageAt?_equipped_of_some there, bufferAt?_equipped_of_some there, there]
  | none =>
    refine iff_of_true (fun id found => ?_) fun id found => nomatch there.symm.trans found
    by_cases located : entry.place = some slot
    · have unused : bench.pipeline.storageAt? entry.place = none := located.symm ▸ there
      obtain ⟨made, -, -, -, bound⟩ := equipped_of_none unused
      rw [storageAt?_equipped unused, if_pos located.symm] at found
      rw [bound, (admits slot located).2 there, if_pos located, Option.none_or]
      exact found
    · rw [storageAt?_equipped_of_ne (Ne.symm located), there] at found
      cases found

private theorem inStep_storeArguments {kernel : String} {entries : List ArgumentEntry}
    {arguments : List ArgumentValue} {bench after : Workbench}
    (ran : (storeArguments kernel entries arguments).apply bench = (.ok ⟨⟩, after))
    (slot : BindingSlot) : after.pipeline.InStep slot ↔ bench.pipeline.InStep slot := by
  induction arguments generalizing bench with
  | nil =>
    cases ran
    rfl
  | cons argument rest ih =>
    obtain ⟨entry, id, buffer, changed, -, admits, -, -, -, ran⟩ := storeArguments_cons_ok.mp ran
    exact (ih ran).trans (inStep_equipped admits slot)

private theorem storeArguments_append_ok {kernel : String} {entries : List ArgumentEntry}
    {earlier later : List ArgumentValue} {bench after : Workbench} :
    (storeArguments kernel entries (earlier ++ later)).apply bench = (.ok ⟨⟩, after) ↔
      ∃ between, (storeArguments kernel entries earlier).apply bench = (.ok ⟨⟩, between) ∧
        (storeArguments kernel entries later).apply between = (.ok ⟨⟩, after) := by
  induction earlier generalizing bench with
  | nil =>
    constructor
    · exact fun ran => ⟨bench, rfl, ran⟩
    · rintro ⟨between, ⟨⟩, ran⟩
      exact ran
  | cons argument rest ih =>
    rw [List.cons_append, storeArguments_cons_ok]
    simp only [ih, storeArguments_cons_ok]
    constructor
    · rintro ⟨entry, id, buffer, changed, found, admits, there, present, stored, between, ran⟩
      exact ⟨between, ⟨entry, id, buffer, changed, found, admits, there, present, stored, ran.1⟩,
        ran.2⟩
    · rintro ⟨between, ⟨entry, id, buffer, changed, found, admits, there, present, stored, ran⟩,
        later⟩
      exact ⟨entry, id, buffer, changed, found, admits, there, present, stored, between, ran, later⟩

/-- The value of an argument is written into a buffer: the one that is found or made for it once the
values before it have been stored. -/
def WritesInto (bench : Workbench) (argument : ArgumentValue) (id : Id Buffer) : Prop :=
  ∃ kernel earlier later between sized, bench.pipeline.kernel? = some kernel ∧
    bench.pipeline.argumentValues = earlier ++ argument :: later ∧
    (storeArguments kernel.entryPoint bench.pipeline.argumentEntries earlier).apply bench =
      (.ok ⟨⟩, between) ∧
    (argumentBuffer kernel.entryPoint argument
      (argument.entry? bench.pipeline.argumentEntries)).apply between = (.ok id, sized)

/-- Values for which there is an entry are stored for a kernel. -/
theorem makeArgumentBuffers_ok_of_entry? {bench after : Workbench} {argument : ArgumentValue}
    {entry : ArgumentEntry} (made : makeArgumentBuffers.apply bench = (.ok ⟨⟩, after))
    (found : argument.entry? bench.pipeline.argumentEntries = some entry) :
    ∃ kernel, bench.pipeline.kernel? = some kernel ∧
      (storeArguments kernel.entryPoint bench.pipeline.argumentEntries
        bench.pipeline.argumentValues).apply bench = (.ok ⟨⟩, after) := by
  rw [apply_makeArgumentBuffers] at made
  cases known : bench.pipeline.kernelArguments? with
  | none =>
    rw [Pipeline.argumentEntries, known] at found
    cases found
  | some entries =>
    obtain ⟨kernel, present, -⟩ := Option.bind_eq_some_iff.mp known
    refine ⟨kernel, present, ?_⟩
    rw [present, known] at made
    rw [Pipeline.argumentEntries, known]
    exact made

/-- At its turn a value at a slot is given the buffer that is recorded for the slot in the end. -/
theorem argumentBuffer_at_turn {kernel : String} {entries : List ArgumentEntry}
    {earlier later : List ArgumentValue} {argument : ArgumentValue} {entry : ArgumentEntry}
    {bench after : Workbench}
    (ran : (storeArguments kernel entries (earlier ++ argument :: later)).apply bench =
      (.ok ⟨⟩, after))
    (found : argument.entry? entries = some entry) (slotted : entry.kind ≠ .podPushConstant) :
    ∃ between, (storeArguments kernel entries earlier).apply bench = (.ok ⟨⟩, between) ∧
      ∃ id, after.pipeline.storageAt? (some entry.slot) = some id ∧
        ∀ other, (∃ sized, (argumentBuffer kernel argument (some entry)).apply between =
          (.ok other, sized)) ↔ other = id := by
  have located : entry.place = some entry.slot := ArgumentEntry.place_eq_some.mpr ⟨slotted, rfl⟩
  obtain ⟨between, before, ran⟩ := storeArguments_append_ok.mp ran
  obtain ⟨_, id, buffer, changed, present, admits, there, held, stored, ran⟩ :=
    storeArguments_cons_ok.mp ran
  cases found.symm.trans present
  have given {other : Id Buffer} {sized : Workbench}
      (provided : (argumentBuffer kernel argument (some entry)).apply between =
        (.ok other, sized)) : other = id := by
    have found := (argumentBuffer_slot_ok slotted).mp provided
    exact Option.some.inj (found.2.1.symm.trans there)
  obtain ⟨made, sized, provided, -⟩ := stored_ok.mpr
    ⟨admits, id, there, onBuffer_ok.mpr ⟨buffer, changed, held, stored, rfl⟩⟩
  obtain rfl := given provided
  refine ⟨between, before, made, ?_, fun other => ⟨fun ⟨_, provided⟩ => given provided, ?_⟩⟩
  · exact (grows_storeArguments ran).2 _ made (located ▸ there)
  · rintro rfl
    exact ⟨sized, provided⟩

/-- A value at a slot is written into the buffer that is recorded for the slot in the end, and into
no other. -/
theorem exists_writesInto_iff {bench after : Workbench} {argument : ArgumentValue}
    {entry : ArgumentEntry} (made : makeArgumentBuffers.apply bench = (.ok ⟨⟩, after))
    (given : argument ∈ bench.pipeline.argumentValues)
    (found : argument.entry? bench.pipeline.argumentEntries = some entry)
    (slotted : entry.kind ≠ .podPushConstant) :
    ∃ id, after.pipeline.storageAt? (some entry.slot) = some id ∧
      ∀ other, bench.WritesInto argument other ↔ other = id := by
  obtain ⟨kernel, present, ran⟩ := makeArgumentBuffers_ok_of_entry? made found
  obtain ⟨earlier, later, split⟩ := List.append_of_mem given
  obtain ⟨between, before, id, stored, turn⟩ := argumentBuffer_at_turn (split ▸ ran) found slotted
  refine ⟨id, stored, fun other => ⟨?_, fun same => ?_⟩⟩
  -- A value may stand at several places: at each turn it is given what is recorded in the end.
  · rintro ⟨_, earlier, later, between, sized, known, split, before, provided⟩
    cases present.symm.trans known
    obtain ⟨_, same, last, storedLast, turn⟩ := argumentBuffer_at_turn (split ▸ ran) found slotted
    cases before.symm.trans same
    cases stored.symm.trans storedLast
    exact (turn other).mp ⟨sized, found ▸ provided⟩
  · obtain ⟨sized, provided⟩ := (turn other).mpr same
    exact ⟨kernel, earlier, later, between, sized, present, split, before, found ▸ provided⟩

private theorem inStep_makeArgumentBuffers {bench after : Workbench}
    (made : makeArgumentBuffers.apply bench = (.ok ⟨⟩, after)) (slot : BindingSlot) :
    after.pipeline.InStep slot ↔ bench.pipeline.InStep slot := by
  rcases makeArgumentBuffers_ok made with ⟨-, rfl⟩ | ⟨kernel, ran⟩
  · rfl
  · exact inStep_storeArguments ran slot

end Workbench

section First

variable {Item : Type} {picks : Item → Bool} {items : List Item} {first : Item}

/-- A change that leaves picked items alone and does not make others picked. -/
private def Stays (picks : Item → Bool) (item changed : Item) : Prop :=
  picks changed = picks item ∧ (picks item → changed = item)

private theorem Stays.refl (picks : Item → Bool) (item : Item) : Stays picks item item :=
  ⟨rfl, fun _ => rfl⟩

private theorem find?_of_stays {after : List Item} (each : List.Forall₂ (Stays picks) items after)
    (found : items.find? picks = some first) : after.find? picks = some first := by
  induction each with
  | nil => cases found
  | @cons item changed rest others stays _ ih =>
    rw [List.find?_cons] at found ⊢
    rw [stays.1]
    cases picked : picks item with
    | true =>
      rw [picked] at found
      rw [stays.2 picked]
      exact found
    | false =>
      rw [picked] at found
      exact ih found

theorem Edit.forall₂_onEach {related : Item → Item → Prop} (same : ∀ item, related item item)
    {operation : Item → Edit Item Unit}
    (each : ∀ item ∈ items, related item ((operation item).apply item).2) :
    List.Forall₂ related items ((Edit.onEach operation).apply items).2 := by
  change List.Forall₂ related items (Edit.onEach.go operation items).2
  induction items with
  | nil => exact .nil
  | cons item rest ih =>
    obtain ⟨head, later⟩ := List.forall_mem_cons.mp each
    rw [Edit.onEach.go]
    cases ran : (operation item).apply item with
    | mk outcome changed =>
      rw [ran] at head
      cases outcome with
      | ok done => exact .cons head (ih later)
      | error fault => exact .cons head (List.forall₂_same.mpr fun item _ => same item)

namespace Pipeline

private theorem find?_updateFirst {target : Item → Bool} {change : Item → Item}
    (kept : ∀ item, picks (change item) = picks item) (found : items.find? picks = some first)
    (other : target first = false) :
    (updateFirst target change items).find? picks = some first := by
  induction items with
  | nil => cases found
  | cons item rest ih =>
    rw [List.find?_cons] at found
    rw [updateFirst]
    cases picked : picks item with
    | true =>
      rw [picked] at found
      cases found
      rw [other, if_neg Bool.false_ne_true, List.find?_cons, picked]
    | false =>
      rw [picked] at found
      by_cases targeted : target item = true
      · rw [if_pos targeted, List.find?_cons, kept, picked]
        exact found
      · rw [if_neg targeted, List.find?_cons, picked]
        exact ih found

private theorem find?_upsert {target : Item → Bool} {change : Item → Item} {fresh : Item}
    (kept : ∀ item, picks (change item) = picks item) (found : items.find? picks = some first)
    (other : target first = false) :
    (upsert target change fresh items).find? picks = some first := by
  unfold upsert
  split
  · exact find?_updateFirst kept found other
  · rw [List.find?_append, found]
    rfl

end Pipeline

end First

namespace Pipeline

/-- The first binding at a slot. -/
def bindingAt? (pipeline : Pipeline) (slot : BindingSlot) : Option BufferBinding :=
  pipeline.buffers.find? (·.slot == slot)

/-- The buffer that has been made for a slot is still in the binding that was made with it, which
is bound to no argument and is the first one at the slot. -/
def Housed (slot : BindingSlot) (pipeline : Pipeline) : Prop :=
  ∀ id, pipeline.storageAt? (some slot) = some id →
    ∃ binding, pipeline.bindingAt? slot = some binding ∧ binding.buffer = id ∧
      binding.argumentName = "" ∧ binding.argumentNumber = wordMax

theorem Housed.inStep {slot : BindingSlot} {pipeline : Pipeline} (housed : pipeline.Housed slot) :
    pipeline.InStep slot := by
  intro id found
  obtain ⟨binding, first, rfl, -⟩ := housed id found
  exact congrArg (Option.map (·.buffer)) first

/-- A slot stays housed where its first binding stays, if that is bound to no argument. -/
theorem Housed.of_bindingAt? {slot : BindingSlot} {before after : Pipeline}
    (housed : before.Housed slot)
    (stored : after.storageAt? (some slot) = before.storageAt? (some slot))
    (kept : ∀ binding, (before.storageAt? (some slot)).isSome →
      before.bindingAt? slot = some binding → binding.argumentName = "" →
      binding.argumentNumber = wordMax → after.bindingAt? slot = some binding) :
    after.Housed slot := by
  intro id found
  rw [stored] at found
  obtain ⟨binding, first, buffer, name, number⟩ := housed id found
  refine ⟨binding, kept binding ?_ first name number, buffer, name, number⟩
  rw [found]
  rfl

theorem housed_new (slot : BindingSlot) (name : String) (kind : PipelineKind) :
    Housed slot { name, kind } :=
  fun _ found => nomatch found

private theorem steady_housed (slot : BindingSlot) : Steady (Housed slot) where
  shaders _ _ housed := housed
  colorAttachments _ _ housed := housed
  resolveTargets _ _ housed := housed
  vertexBuffers _ _ housed := housed
  depthStencil _ _ housed := housed
  indexBuffer _ _ housed := housed
  pushConstants _ _ housed := housed
  groups _ _ housed := housed
  tables _ _ housed := housed

/-- Placing arguments leaves a slot alone: no binding without a slot belongs to an entry there. -/
structure PlacesApart (slot : BindingSlot) (pipeline : Pipeline) : Prop where
  bound : slot ≠ .unbound
  elsewhere : ∀ binding ∈ pipeline.buffers, binding.slot = .unbound →
    ∀ entry ∈ binding.ownEntries pipeline.argumentEntries, entry.slot ≠ slot

end Pipeline

namespace BufferBinding

/-- A binding without a slot gets none but those of its entries, also where placing it fails. -/
theorem slot_placeAll_ne {buffers : Store Buffer} {entries : List ArgumentEntry}
    {binding : BufferBinding} {slot : BindingSlot} (apart : binding.slot ≠ slot)
    (elsewhere : ∀ entry ∈ binding.ownEntries entries, entry.slot ≠ slot) :
    ((entries.forM (place buffers)).apply binding).2.slot ≠ slot := by
  have kept : Edit.Maintains (fun placed : BufferBinding =>
      placed.argumentName = binding.argumentName ∧
        placed.argumentNumber = binding.argumentNumber ∧ placed.slot ≠ slot)
      (entries.forM (place buffers)) := by
    refine Edit.maintains_forM fun entry member => Edit.maintains_get_bind fun seen held => ?_
    split
    · rename_i own
      refine Edit.maintains_bind (Edit.maintains_ofExcept _) fun kind => Edit.maintains_set ?_
      rw [held.1, held.2.1] at own
      exact ⟨held.1, held.2.1, elsewhere entry (List.mem_filter.mpr ⟨member, own⟩)⟩
    · exact Edit.maintains_pure _
  exact (kept binding ⟨rfl, rfl, apart⟩).2.2

private theorem stays_resolve (buffers : Store Buffer) {entries : List ArgumentEntry}
    {binding : BufferBinding} {slot : BindingSlot} (bound : slot ≠ .unbound)
    (elsewhere : binding.slot = .unbound →
      ∀ entry ∈ binding.ownEntries entries, entry.slot ≠ slot) :
    Stays (·.slot == slot) binding ((resolve buffers entries binding).apply binding).2 := by
  unfold resolve
  split
  · rename_i isUnbound
    have unbound := BindingSlot.isUnbound_iff.mp isUnbound
    have before : binding.slot ≠ slot := unbound ▸ bound.symm
    have after : ((entries.forM (place buffers)).apply binding).2.slot ≠ slot :=
      slot_placeAll_ne before (elsewhere unbound)
    refine ⟨(beq_false_of_ne after).trans (beq_false_of_ne before).symm, fun there => ?_⟩
    exact absurd (beq_iff_eq.mp there) before
  · exact .refl _ binding

end BufferBinding

namespace Pipeline

private theorem housed_placeArguments {slot : BindingSlot} {pipeline : Pipeline}
    (housed : pipeline.Housed slot)
    (apart : (pipeline.storageAt? (some slot)).isSome → pipeline.PlacesApart slot)
    (buffers : Store Buffer) : ((placeArguments buffers).apply pipeline).2.Housed slot := by
  refine housed.of_bindingAt? ?stored fun binding made first _ _ => ?kept
  case stored =>
    have stored : Edit.Maintains
        (fun placed => placed.storageAt? (some slot) = pipeline.storageAt? (some slot))
        (placeArguments buffers) :=
      maintains_placeArguments buffers (fun _ _ same => same) fun _ _ same => same
    exact stored pipeline rfl
  case kept =>
    obtain ⟨bound, elsewhere⟩ := apart made
    rw [placeArguments, Edit.apply_bind_of_ok (Edit.apply_get pipeline)]
    unfold argumentEntries at elsewhere
    cases known : pipeline.kernelArguments? with
    | none => exact first
    | some entries =>
      rw [known, Option.getD_some] at elsewhere
      dsimp only
      rw [Edit.apply_bind, Edit.apply_onPart]
      -- Samplers come first: where one of them fails no buffer has been touched.
      cases ((Edit.onEach (SamplerBinding.resolve entries)).apply pipeline.samplers).1 with
      | error fault => exact first
      | ok done =>
        have stays := Edit.forall₂_onEach (Stays.refl _) fun binding member =>
          BufferBinding.stays_resolve buffers bound (elsewhere binding member)
        exact find?_of_stays stays first

end Pipeline

namespace Workbench

/-- An operation that leaves the first binding at a slot alone if that is bound to no argument. -/
def Operation.Spares (slot : BindingSlot) (pipeline : Pipeline) : Operation → Prop
  | .change (.clearBuffers cleared) => cleared ≠ slot
  | .change (.bindBufferByName _ _ name) => name ≠ ""
  | .change (.bindBufferByNumber _ _ number) => number ≠ wordMax
  | .request (.placeArguments _) => pipeline.PlacesApart slot
  | .prepareKernel => pipeline.PlacesApart slot
  | _ => True

variable {slot : BindingSlot}

theorem housed_change {pipeline : Pipeline} (housed : pipeline.Housed slot)
    (made : Pipeline.Change)
    (spares : (pipeline.storageAt? (some slot)).isSome →
      (Operation.change made).Spares slot pipeline) : (made.apply pipeline).Housed slot := by
  have stored : (made.apply pipeline).storageAt? (some slot) = pipeline.storageAt? (some slot) := by
    cases made <;> rfl
  refine housed.of_bindingAt? stored fun binding present first named numbered => ?_
  have spared := spares present
  cases made with
  | addBuffer added =>
    exact (List.find?_append ..).trans (congrArg (Option.or · _) first)
  | bindBufferByName buffer kind name =>
    have other : (binding.argumentName == name) = false :=
      beq_false_of_ne (named ▸ Ne.symm spared)
    exact Pipeline.find?_upsert (fun _ => rfl) first other
  | bindBufferByNumber buffer kind number =>
    have other : (binding.argumentNumber == number) = false :=
      beq_false_of_ne (numbered ▸ Ne.symm spared)
    exact Pipeline.find?_upsert (fun _ => rfl) first other
  | clearBuffers cleared =>
    have same : (fun binding : BufferBinding =>
        decide ((binding.slot != cleared) = true ∧ (binding.slot == slot) = true)) =
        fun binding => binding.slot == slot := by
      funext binding
      by_cases there : binding.slot = slot
      · simp [there, Ne.symm spared]
      · simp [there]
    rw [Pipeline.bindingAt?, Pipeline.Change.apply, Pipeline.clearBuffers, List.find?_filter, same]
    exact first
  | _ => exact first

theorem lasting_housed (slot : BindingSlot) :
    Lasting fun bench => bench.pipeline.Housed slot where
  pushConstants _ _ housed := housed
  arguments bench own argument free housed := by
    have unhoused : bench.pipeline.bindingAt? own = none := Option.map_eq_none_iff.mp free
    by_cases here : own = slot
    · subst own
      -- Storage is made where nothing is bound, so by what is known there was none before.
      have unused : bench.pipeline.storageAt? (some slot) = none := by
        refine Option.eq_none_iff_forall_ne_some.mpr fun id found => ?_
        obtain ⟨binding, first, -⟩ := housed id found
        cases unhoused.symm.trans first
      intro id found
      rw [storageAt?_withArgumentBuffer unused, if_pos rfl] at found
      refine ⟨{ buffer := id, kind := argumentBufferKind argument, slot }, ?_, rfl, rfl, rfl⟩
      cases found
      refine (List.find?_append ..).trans ?_
      rw [← Pipeline.bindingAt?, unhoused, Option.none_or, List.find?_cons, beq_self_eq_true]
    · refine housed.of_bindingAt? ?_ fun binding _ first _ _ => ?_
      · refine (List.lookup_append ..).trans ?_
        rw [List.lookup_cons, beq_false_of_ne (Ne.symm here)]
        exact Option.or_none
      · exact (List.find?_append ..).trans (congrArg (Option.or · _) first)
  contents _ _ _ _ _ _ _ housed := housed

/-- The storage of a slot stays with its binding in every operation that spares the slot; before
there is storage any operation does. -/
theorem housed_edit {bench : Workbench} (housed : bench.pipeline.Housed slot)
    (operation : Operation)
    (spares : (bench.pipeline.storageAt? (some slot)).isSome →
      operation.Spares slot bench.pipeline) :
    (operation.edit.apply bench).2.pipeline.Housed slot := by
  have steady := Pipeline.steady_housed slot
  have lasting := lasting_housed slot
  cases operation with
  | change made => exact housed_change housed made spares
  | request asked =>
    by_cases placing : ∃ buffers, asked = .placeArguments buffers
    · obtain ⟨buffers, rfl⟩ := placing
      exact Pipeline.housed_placeArguments housed spares buffers
    · have kept := steady.request asked (fun buffers same => absurd ⟨buffers, same⟩ placing)
        (Pipeline.maintains_validate fun _ _ housed => housed)
      exact maintains_onPipeline kept bench housed
  | addColorAttachment buffer location mipLevel =>
    exact maintains_addColorAttachment steady buffer location mipLevel bench housed
  | addResolveTarget buffer => exact maintains_addResolveTarget steady buffer bench housed
  | setDepthStencil buffer => exact maintains_setDepthStencil steady buffer bench housed
  | fitAttachments => exact maintains_fitAttachments bench housed
  | makeArgumentBuffers => exact maintains_makeArgumentBuffers lasting bench housed
  | makeLiteralSamplers => exact housed
  | makePushConstants => exact maintains_makePushConstants lasting bench housed
  | prepareKernel =>
    have prepared : Edit.Leads (· = bench) (fun bench => bench.pipeline.Housed slot)
        (fun _ bench => bench.pipeline.Housed slot) prepareKernel := by
      refine Edit.leads_get_bind fun seen same => ?_
      subst seen
      have placed : Edit.Leads (· = bench) (fun bench => bench.pipeline.Housed slot)
          (fun _ bench => bench.pipeline.Housed slot)
          (onPipeline (Pipeline.placeArguments bench.buffers)) := by
        refine Edit.leads_iff.mpr fun start same => ?_
        subst start
        exact Pipeline.housed_placeArguments housed spares bench.buffers
      refine Edit.leads_bind placed fun _ => Edit.Maintains.leads ?_
      refine Edit.maintains_bind (Edit.maintains_modify fun _ housed => housed) fun _ => ?_
      refine Edit.maintains_bind (maintains_makeArgumentBuffers lasting) fun _ => ?_
      exact maintains_makePushConstants lasting
    exact Edit.leads_iff.mp prepared bench rfl
  | copyPipeline name =>
    have copied : Edit.Maintains (fun bench => bench.pipeline.Housed slot)
        (Operation.copyPipeline name).edit :=
      Edit.maintains_bind (maintains_copyPipeline name) fun _ => Edit.maintains_pure _
    exact copied bench housed
  | replaceStores buffers samplers => exact housed

end Workbench

namespace Pipeline

/-- A pipeline that operations lead to from a new one or from a copy, all of which spare a slot once
a buffer has been made for it. -/
inductive Tended (slot : BindingSlot) : Pipeline → Prop where
  | new (name : String) (kind : PipelineKind) : Tended slot { name, kind }
  | copy {bench after : Workbench} {name : String} {copy : Pipeline}
    (copied : (Workbench.copyPipeline name).apply bench = (.ok copy, after)) : Tended slot copy
  | edit {bench : Workbench} (tended : Tended slot bench.pipeline)
    {operation : Workbench.Operation}
    (spares : (bench.pipeline.storageAt? (some slot)).isSome →
      operation.Spares slot bench.pipeline) :
    Tended slot (operation.edit.apply bench).2.pipeline

theorem Tended.housed {slot : BindingSlot} {pipeline : Pipeline} (tended : pipeline.Tended slot) :
    pipeline.Housed slot := by
  induction tended with
  | new name kind => exact housed_new slot name kind
  | copy copied =>
    obtain ⟨made, housed, -, same⟩ :=
      (Workbench.lasting_housed slot).copyPipeline (fun _ found => nomatch found) copied
    obtain rfl := same _ rfl
    exact housed
  | edit tended spares housed => exact Workbench.housed_edit housed _ spares

end Pipeline

namespace Workbench

/-- The value of a plain data argument is written into one buffer. It is the one that is bound at
the slot of the argument exactly when the slot was in step before, as every slot is that has been
tended. -/
theorem makeArgumentBuffers_bound {bench after : Workbench}
    (made : makeArgumentBuffers.apply bench = (.ok ⟨⟩, after)) {argument : ArgumentValue}
    (given : argument ∈ bench.pipeline.argumentValues) {entry : ArgumentEntry}
    (found : argument.entry? bench.pipeline.argumentEntries = some entry)
    (plain : entry.kind = .pod ∨ entry.kind = .podUbo) :
    ∃ id, (∀ other, bench.WritesInto argument other ↔ other = id) ∧
      (after.pipeline.bufferAt? entry.slot = some id ↔ bench.pipeline.InStep entry.slot) ∧
      (bench.pipeline.Tended entry.slot → after.pipeline.bufferAt? entry.slot = some id) := by
  have slotted : entry.kind ≠ .podPushConstant := by
    rcases plain with kind | kind <;> simp [kind]
  obtain ⟨id, stored, written⟩ := exists_writesInto_iff made given found slotted
  have bound : after.pipeline.bufferAt? entry.slot = some id ↔
      bench.pipeline.InStep entry.slot := by
    rw [← inStep_makeArgumentBuffers made, Pipeline.InStep, stored]
    simp
  exact ⟨id, written, bound, fun tended => bound.mpr tended.housed.inStep⟩

/-- A buffer that is bound by hand where storage has been made comes behind it: the values are still
read from their storage when they are stored once more. -/
theorem makeArgumentBuffers_bound_again :
    let entry : ArgumentEntry := { name := "scale", kind := .pod, slot := ⟨0, 1⟩, size := 1 }
    let argument : ArgumentValue :=
      { name := "scale", ordinal := 0, format := .unsignedByte, value := .integer 7 }
    let double : Shader := { name := "double", stage := .compute, format := .openClC }
    let start : Workbench := { pipeline := { name := "work", kind := .compute } }
    let bench : Workbench := start.perform
      [.request (.attachShader ⟨0⟩ double .compute),
        .request (.changeShader "double" "descriptor map" (·.addArgument "main" entry)),
        .change (.addArgumentValue argument),
        .makeArgumentBuffers,
        .change (.addBuffer { buffer := ⟨5⟩, kind := .storage, slot := ⟨0, 1⟩ }),
        .change (.clearBuffers ⟨0, 0⟩)]
    let after := (makeArgumentBuffers.apply bench).2
    makeArgumentBuffers.apply bench = (.ok ⟨⟩, after) ∧ bench.pipeline.Tended ⟨0, 1⟩ ∧
      bench.pipeline.buffers.map (·.buffer) = [⟨0⟩, ⟨5⟩] ∧ bench.WritesInto argument ⟨0⟩ ∧
      after.pipeline.bufferAt? ⟨0, 1⟩ = some ⟨0⟩ := by
  intro entry argument double start bench after
  have done : (makeArgumentBuffers.apply bench).1 = .ok ⟨⟩ := by decide +revert +kernel
  have given : argument ∈ bench.pipeline.argumentValues := by
    clear done
    decide +revert +kernel
  have found : argument.entry? bench.pipeline.argumentEntries = some entry := by
    clear done given
    decide +revert +kernel
  have both : bench.pipeline.buffers.map (·.buffer) = [⟨0⟩, ⟨5⟩] := by
    clear done given found
    decide +revert +kernel
  have bound : after.pipeline.bufferAt? ⟨0, 1⟩ = some ⟨0⟩ := by
    clear done given found both
    decide +revert +kernel
  have tended : bench.pipeline.Tended ⟨0, 1⟩ := by
    have elsewhere : (⟨0, 0⟩ : BindingSlot) ≠ ⟨0, 1⟩ := by decide
    refine .edit (.edit (.edit (.edit (.edit (.edit (.new "work" .compute) ?_) ?_) ?_) ?_) ?_) ?_
    case refine_6 => exact fun _ => elsewhere
    all_goals exact fun _ => trivial
  have made : makeArgumentBuffers.apply bench = (.ok ⟨⟩, after) := Prod.ext done rfl
  obtain ⟨id, written, -, kept⟩ := makeArgumentBuffers_bound made given found (.inl rfl)
  cases bound.symm.trans (kept tended)
  exact ⟨made, tended, both, (written _).mpr rfl, bound⟩

/-- When the buffers at its slot have been cleared, a value goes to the storage that it had before,
which is not bound any more. -/
theorem makeArgumentBuffers_cleared :
    let entry : ArgumentEntry := { name := "scale", kind := .pod, slot := ⟨0, 1⟩, size := 1 }
    let argument : ArgumentValue :=
      { name := "scale", ordinal := 0, format := .unsignedByte, value := .integer 7 }
    let double : Shader := { name := "double", stage := .compute, format := .openClC }
    let start : Workbench := { pipeline := { name := "work", kind := .compute } }
    let bench : Workbench := start.perform
      [.request (.attachShader ⟨0⟩ double .compute),
        .request (.changeShader "double" "descriptor map" (·.addArgument "main" entry)),
        .change (.addArgumentValue argument),
        .makeArgumentBuffers,
        .change (.clearBuffers ⟨0, 1⟩)]
    let after := (makeArgumentBuffers.apply bench).2
    bench.pipeline.Reachable ∧ makeArgumentBuffers.apply bench = (.ok ⟨⟩, after) ∧
      argument ∈ bench.pipeline.argumentValues ∧
      argument.entry? bench.pipeline.argumentEntries = some entry ∧
      bench.WritesInto argument ⟨0⟩ ∧ after.pipeline.bufferAt? entry.slot = none := by
  intro entry argument double start bench after
  have reachable : bench.pipeline.Reachable := by
    refine .perform (.new "work" .compute) ?_
    simp [Operation.Sealed, Pipeline.IsSetting, AttachedShader.addArgument]
  have done : (makeArgumentBuffers.apply bench).1 = .ok ⟨⟩ := by
    clear reachable
    decide +revert +kernel
  have given : argument ∈ bench.pipeline.argumentValues := by
    clear reachable done
    decide +revert +kernel
  have found : argument.entry? bench.pipeline.argumentEntries = some entry := by
    clear reachable done given
    decide +revert +kernel
  have recorded : after.pipeline.storageAt? (some entry.slot) = some ⟨0⟩ := by
    clear reachable done given found
    decide +revert +kernel
  have unbound : after.pipeline.bufferAt? entry.slot = none := by
    clear reachable done given found recorded
    decide +revert +kernel
  have made : makeArgumentBuffers.apply bench = (.ok ⟨⟩, after) := Prod.ext done rfl
  obtain ⟨id, stored, written⟩ := exists_writesInto_iff made given found (by simp [entry])
  cases stored.symm.trans recorded
  exact ⟨reachable, made, given, found, (written _).mpr rfl, unbound⟩

end Workbench

end GpuScript
