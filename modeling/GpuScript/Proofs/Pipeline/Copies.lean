import GpuScript.Proofs.Pipeline.Finality
import GpuScript.Proofs.Store

/-! Copies of a pipeline. A copy gets the shaders, attachments and buffers of its source and storage
of its own for argument values; it gets no shader groups, so that a copy of a complete pipeline is
complete exactly when the pipeline is not one for ray tracing. -/
namespace GpuScript

namespace Pipeline

variable {buffers : Store Buffer} {binding : BufferBinding}

theorem HasFormat.push (formatted : HasFormat buffers binding) (buffer : Buffer) :
    HasFormat (buffers.push buffer) binding := by
  obtain ⟨bound, found, format⟩ := formatted
  refine ⟨bound, ?_, format⟩
  rw [Store.get?_push_of_lt _ _ _ (Store.lt_size_of_get? found)]
  exact found

private theorem hasFormat_nextId {buffer : Buffer} (bound : binding.buffer = buffers.nextId)
    (format : buffer.format.isSome) : HasFormat (buffers.push buffer) binding :=
  ⟨buffer, by rw [bound, Store.get?_nextId], format⟩

theorem HasFormat.set (formatted : HasFormat buffers binding) {id : Id Buffer}
    {before after : Buffer} (found : buffers.get? id = some before)
    (same : after.format = before.format) : HasFormat (buffers.set id after) binding := by
  obtain ⟨bound, bindingFound, format⟩ := formatted
  by_cases rewritten : id = binding.buffer
  · subst rewritten
    rw [found] at bindingFound
    cases bindingFound
    exact ⟨after, Store.get?_set_self found after, same ▸ format⟩
  · exact ⟨bound, (Store.get?_set_of_ne buffers rewritten after).trans bindingFound, format⟩

/-- The copy of a pipeline under another name, before storage is made for its argument values. -/
def freshCopy (source : Pipeline) (name : String) : Pipeline :=
  { name
    kind := source.kind
    shaders := source.shaders
    colorAttachments := source.colorAttachments
    vertexBuffers := source.vertexBuffers
    buffers := source.buffers.filter fun binding =>
      !source.argumentBuffers.any (·.2 == binding.buffer)
    depthStencil := source.depthStencil
    indexBuffer := source.indexBuffer
    width := source.width
    height := source.height
    state := source.state
    argumentValues := source.argumentValues }

/-- A copy keeps the bindings of buffers that were not made for argument values. -/
theorem buffers_freshCopy (source : Pipeline) (name : String) :
    (source.freshCopy name).buffers =
      source.buffers.filter (·.buffer ∉ source.argumentBuffers.map (·.2)) := by
  refine List.filter_congr fun binding _ => ?_
  have made : source.argumentBuffers.any (·.2 == binding.buffer) =
      decide (binding.buffer ∈ source.argumentBuffers.map (·.2)) := by
    rw [Bool.eq_iff_iff, List.any_eq_true, decide_eq_true_iff, List.mem_map]
    simp only [beq_iff_eq]
  rw [made, decide_not]

end Pipeline

namespace Workbench

def withCopy (bench : Workbench) (name : String) : Workbench :=
  { bench with pipeline := bench.pipeline.freshCopy name }

theorem apply_copyPipeline (name : String) (bench : Workbench) :
    (copyPipeline name).apply bench =
      if bench.pipeline.argumentBuffers.isEmpty then (.ok (bench.pipeline.freshCopy name), bench)
      else
        match makeArgumentBuffers.apply (bench.withCopy name) with
        | (.ok _, made) => (.ok made.pipeline, { bench with buffers := made.buffers })
        | (.error fault, made) => (.error fault, { bench with buffers := made.buffers }) := by
  rw [copyPipeline, Edit.apply_bind_of_ok (Edit.apply_get bench)]
  dsimp only
  rw [← Pipeline.buffers_freshCopy bench.pipeline name]
  split
  · rfl
  · rw [Edit.apply_onPart, Edit.apply_bind]
    cases ran : makeArgumentBuffers.apply (bench.withCopy name) with
    | mk outcome made =>
      unfold withCopy Pipeline.freshCopy at ran
      rw [Pipeline.freshCopy, ran]
      cases outcome <;> rfl

/-- What lasts from the fresh copy on holds after copying, of the copy where one is returned. -/
theorem Lasting.copyPipeline {holds : Workbench → Prop} (lasting : Lasting holds) {name : String}
    {bench after : Workbench} {outcome : Except Fault Pipeline} (held : holds (bench.withCopy name))
    (copied : (copyPipeline name).apply bench = (outcome, after)) :
    ∃ made, holds made ∧ after = { bench with buffers := made.buffers } ∧
      ∀ copy, outcome = .ok copy → copy = made.pipeline := by
  rw [apply_copyPipeline] at copied
  split at copied
  · cases copied
    exact ⟨bench.withCopy name, held, rfl, fun copy same => (Except.ok.inj same).symm⟩
  · have kept := maintains_makeArgumentBuffers lasting _ held
    cases ran : makeArgumentBuffers.apply (bench.withCopy name) with
    | mk result made =>
      rw [ran] at copied kept
      cases result with
      | ok done =>
        cases copied
        exact ⟨made, kept, rfl, fun copy same => (Except.ok.inj same).symm⟩
      | error fault =>
        cases copied
        exact ⟨made, kept, rfl, fun copy same => nomatch same⟩

/-- A bench on which storage is made, starting from a store of buffers: the buffers that were there
stay as they were. -/
structure Stocks (start : Store Buffer) (bench : Workbench) : Prop where
  grown : start.size ≤ bench.buffers.size
  older : ∀ id, id.index < start.size → bench.buffers.get? id = start.get? id
  stored : ∀ id, bench.pipeline.Stores id → start.size ≤ id.index

theorem Stocks.older_push {start : Store Buffer} {bench : Workbench} (stocks : Stocks start bench)
    (buffer : Buffer) (id : Id Buffer) (older : id.index < start.size) :
    (bench.buffers.push buffer).get? id = start.get? id := by
  rw [Store.get?_push_of_lt _ _ _ (Nat.lt_of_lt_of_le older stocks.grown)]
  exact stocks.older id older

theorem lasting_stocks (start : Store Buffer) : Lasting (Stocks start) where
  pushConstants bench unbound stocks := by
    refine ⟨?_, stocks.older_push _, ?_⟩
    · rw [size_withPushConstants]
      exact Nat.le_succ_of_le stocks.grown
    · rintro id (argument | ⟨binding, bound, rfl⟩)
      · exact stocks.stored id (.inl argument)
      · cases bound
        exact stocks.grown
  arguments bench slot argument free stocks := by
    refine ⟨?_, stocks.older_push _, ?_⟩
    · rw [size_withArgumentBuffer]
      exact Nat.le_succ_of_le stocks.grown
    · rintro id (⟨place, member⟩ | pushConstants)
      · rcases List.mem_append.mp member with earlier | fresh
        · exact stocks.stored id (.inl ⟨place, earlier⟩)
        · cases List.mem_singleton.mp fresh
          exact stocks.grown
      · exact stocks.stored id (.inr pushConstants)
  contents bench id buffer after stored found same stocks := by
    have recent : start.size ≤ id.index := stocks.stored id stored
    refine ⟨?_, ?_, stocks.stored⟩
    · rw [size_setBuffer]
      exact stocks.grown
    · intro other older
      have apart : id ≠ other := fun equal => Nat.not_lt.mpr recent (equal ▸ older)
      exact (Store.get?_set_of_ne bench.buffers apart after).trans (stocks.older other older)

theorem stocks_withCopy (bench : Workbench) (name : String) :
    Stocks bench.buffers (bench.withCopy name) := by
  refine ⟨Nat.le_refl _, fun _ _ => rfl, ?_⟩
  rintro id (⟨slot, member⟩ | ⟨binding, bound, -⟩)
  · cases member
  · cases bound

/-- A bench on which a copy gets its storage; all that is bound to the copy has a format. -/
private structure Equips (start : Store Buffer) (copy : Pipeline) (bench : Workbench) : Prop
    extends Stocks start bench where
  outline : bench.pipeline.outline = copy.outline
  formats : ∀ binding ∈ bench.pipeline.buffers, Pipeline.HasFormat bench.buffers binding

private theorem lasting_equips (start : Store Buffer) (copy : Pipeline) : Lasting
    (Equips start copy) where
  pushConstants bench unbound equips := by
    refine ⟨(lasting_stocks start).pushConstants bench unbound equips.toStocks, equips.outline, ?_⟩
    exact fun binding bound => (equips.formats binding bound).push _
  arguments bench slot argument free equips := by
    refine ⟨(lasting_stocks start).arguments bench slot argument free equips.toStocks,
      equips.outline, fun binding bound => ?_⟩
    rcases List.mem_append.mp bound with earlier | fresh
    · exact (equips.formats binding earlier).push _
    · cases List.mem_singleton.mp fresh
      exact Pipeline.hasFormat_nextId rfl rfl
  contents bench id buffer after stored found same equips := by
    have format := congrArg Buffer.format same
    refine ⟨(lasting_stocks start).contents bench id buffer after stored found same
      equips.toStocks, equips.outline, fun binding bound => ?_⟩
    exact (equips.formats binding bound).set found format

private theorem equips_withCopy {bench : Workbench} (name : String)
    (formats : ∀ binding ∈ bench.pipeline.buffers, Pipeline.HasFormat bench.buffers binding) :
    Equips bench.buffers (bench.pipeline.freshCopy name) (bench.withCopy name) := by
  refine ⟨stocks_withCopy bench name, rfl, fun binding bound => formats binding ?_⟩
  exact (List.mem_filter.mp bound).1

end Workbench

namespace Pipeline

/-- An attachment that fits a framebuffer fits another one of its size while its buffer is the
same. -/
theorem Fits.of_same {pipeline other : Pipeline} {buffers later : Store Buffer}
    {attachment : BufferBinding} {mipLevel : Nat}
    (fits : pipeline.Fits buffers attachment mipLevel)
    (width : other.width = pipeline.width) (height : other.height = pipeline.height)
    (older : ∀ id, id.index < buffers.size → later.get? id = buffers.get? id) :
    other.Fits later attachment mipLevel := by
  obtain ⟨buffer, found, small, count⟩ := fits
  refine ⟨buffer, ?_, ?_, ?_⟩
  · exact (older _ (Store.lt_size_of_get? found)).trans found
  · rw [width, height]
    exact small
  · rw [width, height]
    exact count

/-- A fresh copy of a complete pipeline with its storage lacks shader groups, and nothing else. -/
private theorem Complete.copy_iff {bench made : Workbench} {name : String}
    (complete : bench.pipeline.Complete bench.buffers)
    (equips : Workbench.Equips bench.buffers (bench.pipeline.freshCopy name) made) :
    made.pipeline.Complete made.buffers ↔ bench.pipeline.kind ≠ .rayTracing := by
  have kept {Part : Type} (part : Pipeline → Part) :
      part made.pipeline.outline = part (bench.pipeline.freshCopy name).outline :=
    congrArg part equips.outline
  have kind : made.pipeline.kind = bench.pipeline.kind := kept Pipeline.kind
  have shaders : made.pipeline.shaders = bench.pipeline.shaders := kept Pipeline.shaders
  have colors : made.pipeline.colorAttachments = bench.pipeline.colorAttachments :=
    kept Pipeline.colorAttachments
  have depth : made.pipeline.depthStencil = bench.pipeline.depthStencil :=
    kept Pipeline.depthStencil
  have width : made.pipeline.width = bench.pipeline.width := kept Pipeline.width
  have height : made.pipeline.height = bench.pipeline.height := kept Pipeline.height
  have groups : made.pipeline.groups = [] := kept Pipeline.groups
  have needs := complete.kind
  unfold KindComplete at needs
  constructor
  · intro copied rays
    have lacking := copied.kind
    rw [KindComplete, kind, rays] at lacking
    exact lacking.someGroup groups
  · intro raster
    refine ⟨?_, ?_, equips.formats, ?_⟩
    · rw [colors]
      exact fun attachment bound =>
        (complete.colors attachment bound).of_same width height equips.older
    · rw [depth]
      exact fun attachment bound =>
        (complete.depth attachment bound).of_same width height equips.older
    · rw [KindComplete, kind]
      cases worked : bench.pipeline.kind with
      | rayTracing => exact absurd worked raster
      | compute =>
        rw [worked] at needs
        exact shaders ▸ needs
      | graphics =>
        rw [worked] at needs
        refine ⟨colors ▸ needs.color, shaders ▸ needs.vertex, shaders ▸ needs.fragment, ?_⟩
        rw [colors]
        intro attachment bound
        obtain ⟨buffer, found, levels⟩ := needs.levels attachment bound
        exact ⟨buffer, (equips.older _ (Store.lt_size_of_get? found)).trans found, levels⟩

theorem complete_of_validate {pipeline : Pipeline} {buffers : Store Buffer}
    (valid : (validate buffers).Succeeds pipeline) : pipeline.Complete buffers := by
  rw [Edit.succeeds_iff] at valid
  by_cases failed : pipeline.validity = .invalid
  · rw [apply_validate_of_failed ⟨failed, rfl⟩] at valid
    cases valid
  · rw [apply_validate_of_open failed] at valid
    rw [← check_ok_iff]
    cases checked : pipeline.check buffers with
    | ok verdict => rfl
    | error fault => simp [checked] at valid

theorem validate_succeeds_iff {pipeline : Pipeline} (opened : pipeline.validity ≠ .invalid)
    (buffers : Store Buffer) :
    (validate buffers).Succeeds pipeline ↔ pipeline.Complete buffers := by
  refine ⟨complete_of_validate, fun complete => ?_⟩
  rw [Edit.succeeds_iff, apply_validate_of_open opened, check_ok_iff.mpr complete]

end Pipeline

namespace Workbench

/-- A copy of a pipeline that has passed its validation passes its own exactly when the pipeline is
not one for ray tracing: a copy gets no shader groups. -/
theorem validate_copy_iff {bench after : Workbench} {name : String} {copy : Pipeline}
    (valid : (Pipeline.validate bench.buffers).Succeeds bench.pipeline)
    (copied : (copyPipeline name).apply bench = (.ok copy, after)) :
    (Pipeline.validate after.buffers).Succeeds copy ↔ bench.pipeline.kind ≠ .rayTracing := by
  have complete := Pipeline.complete_of_validate valid
  have begun := equips_withCopy name complete.formats
  obtain ⟨made, equips, rfl, same⟩ := (lasting_equips _ _).copyPipeline begun copied
  obtain rfl := same copy rfl
  have draft : made.pipeline.validity = .draft := congrArg Pipeline.validity equips.outline
  have opened : made.pipeline.validity ≠ .invalid := by
    rw [draft]
    exact nofun
  rw [Pipeline.validate_succeeds_iff opened]
  exact complete.copy_iff equips

/-- The copy of a kernel with a plain data argument gets a buffer of its own for it and is valid. -/
theorem validate_copy_iff_kernel :
    let argument : ArgumentEntry := { name := "scale", kind := .pod, size := 1 }
    let kernel : AttachedShader :=
      { shader := ⟨0⟩
        name := "double"
        format := .openClC
        stage := .compute
        argumentMap := [("main", [argument])] }
    let stored : BufferBinding := { buffer := ⟨0⟩, kind := .storage }
    let source : Pipeline :=
      { name := "work"
        kind := .compute
        shaders := [kernel]
        buffers := [stored]
        argumentValues := [⟨"scale", 0, .unsignedByte, .integer 2⟩]
        argumentBuffers := [({}, ⟨0⟩)] }
    let buffer : Buffer :=
      { name := "work_pod_buffer_0_0", kind := .storage, format := some .unsignedByte }
    let bench : Workbench := { pipeline := source, buffers := ⟨#[buffer]⟩ }
    let outcome := (copyPipeline "again").apply bench
    (Pipeline.validate bench.buffers).Succeeds bench.pipeline ∧
      ∃ copy, outcome.1 = .ok copy ∧ copy.argumentBuffers = [({}, ⟨1⟩)] ∧
        (Pipeline.validate outcome.2.buffers).Succeeds copy := by
  intro argument kernel stored source buffer bench outcome
  have own : outcome.1.toOption.map Pipeline.argumentBuffers = some [({}, ⟨1⟩)] := by
    decide +revert +kernel
  have valid : (Pipeline.validate bench.buffers).Succeeds bench.pipeline :=
    Edit.succeeds_iff.mpr rfl
  cases copied : outcome.1 with
  | error fault =>
    rw [copied] at own
    cases own
  | ok copy =>
    rw [copied] at own
    refine ⟨valid, copy, rfl, Option.some.inj own, ?_⟩
    exact (validate_copy_iff valid (Prod.ext copied rfl)).mpr nofun

/-- The copy of a valid ray tracing pipeline has lost its shader group and is not valid. -/
theorem validate_copy_rays :
    let rays : Shader := { name := "rays", stage := .rayGeneration }
    let source : Pipeline :=
      { name := "source"
        kind := .rayTracing
        shaders := [.fresh ⟨0⟩ rays .rayGeneration]
        groups := [{ name := "group", general := some ⟨0⟩ }] }
    let bench : Workbench := { pipeline := source }
    let outcome := (copyPipeline "copy").apply bench
    (Pipeline.validate bench.buffers).Succeeds bench.pipeline ∧
      ∃ copy, outcome.1 = .ok copy ∧
        ((Pipeline.validate outcome.2.buffers).apply copy).1 =
          .error (.pipeline .noShaderGroup) := by
  intro rays source bench outcome
  exact ⟨Edit.succeeds_iff.mpr rfl, _, rfl, rfl⟩

end Workbench

end GpuScript
