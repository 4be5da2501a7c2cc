import GpuScript.Proofs.Pipeline.Copies

namespace GpuScript

section Keys

variable {Item Key : Type} {key : Item → Key} {items : List Item}

theorem nodup_keys_append {fresh : Item} (distinct : (items.map key).Nodup)
    (free : key fresh ∉ items.map key) : ((items ++ [fresh]).map key).Nodup := by
  rw [List.map_append, List.nodup_append]
  refine ⟨distinct, by simp, ?_⟩
  intro taken member other fromFresh same
  have other : other = key fresh := List.mem_singleton.mp fromFresh
  exact free (other ▸ same ▸ member)

theorem not_mem_keys [BEq Key] [LawfulBEq Key] {value : Key}
    (free : ¬items.any (key · == value) = true) : value ∉ items.map key := by
  intro member
  obtain ⟨item, found, same⟩ := List.mem_map.mp member
  exact free (List.any_eq_true.mpr ⟨item, found, beq_iff_eq.mpr same⟩)

theorem filter_key_of_nodup [BEq Key] [LawfulBEq Key] (distinct : (items.map key).Nodup)
    {item : Item} (member : item ∈ items) : items.filter (key · == key item) = [item] := by
  induction items with
  | nil => nomatch member
  | cons first rest ih =>
    obtain ⟨alone, distinct⟩ := List.nodup_cons.mp distinct
    rcases List.mem_cons.mp member with rfl | later
    · have others : rest.filter (key · == key item) = [] := by
        refine List.filter_eq_nil_iff.mpr fun other member same => alone ?_
        exact List.mem_map.mpr ⟨other, member, beq_iff_eq.mp same⟩
      rw [List.filter_cons, if_pos (beq_self_eq_true _), others]
    · have apart : ¬(key first == key item) = true := fun same =>
        alone (List.mem_map.mpr ⟨item, later, (beq_iff_eq.mp same).symm⟩)
      rw [List.filter_cons, if_neg apart, ih distinct later]

namespace Pipeline

variable {picks : Item → Bool} {change : Item → Item}

theorem map_updateFirst_of_same (same : ∀ item, key (change item) = key item) :
    (updateFirst picks change items).map key = items.map key := by
  induction items with
  | nil => rfl
  | cons item rest ih =>
    rw [updateFirst]
    by_cases picked : picks item
    · rw [if_pos picked, List.map_cons, List.map_cons, same]
    · rw [if_neg picked, List.map_cons, List.map_cons, ih]

theorem mem_map_updateFirst {value other : Key} (renewed : ∀ item, key (change item) = value)
    (member : other ∈ (updateFirst picks change items).map key) :
    other = value ∨ other ∈ items.map key := by
  induction items with
  | nil => exact .inr member
  | cons item rest ih =>
    rw [updateFirst] at member
    by_cases picked : picks item
    · rw [if_pos picked, List.map_cons, List.mem_cons, renewed] at member
      rcases member with new | old
      · exact .inl new
      · exact .inr (List.mem_cons_of_mem _ old)
    · rw [if_neg picked, List.map_cons, List.mem_cons] at member
      rcases member with first | later
      · exact .inr (first ▸ List.mem_cons_self)
      · rcases ih later with new | old
        · exact .inl new
        · exact .inr (List.mem_cons_of_mem _ old)

private theorem nodup_keys_updateFirst {value : Key} (renewed : ∀ item, key (change item) = value)
    (distinct : (items.map key).Nodup) (free : value ∉ items.map key) :
    ((updateFirst picks change items).map key).Nodup := by
  induction items with
  | nil => exact distinct
  | cons item rest ih =>
    rw [List.map_cons, List.nodup_cons] at distinct
    rw [List.map_cons, List.mem_cons, not_or] at free
    rw [updateFirst]
    by_cases picked : picks item
    · rw [if_pos picked, List.map_cons, List.nodup_cons, renewed]
      exact ⟨free.2, distinct.2⟩
    · rw [if_neg picked, List.map_cons, List.nodup_cons]
      refine ⟨fun member => ?_, ih distinct.2 free.2⟩
      rcases mem_map_updateFirst renewed member with new | old
      · exact free.1 new.symm
      · exact distinct.1 old

/-! Items that a test picks, among those of the changed list. -/

variable {tests : Item → Bool} {fresh : Item}

private theorem filter_updateFirst (kept : ∀ item, picks (change item) = picks item) :
    (updateFirst picks change items).filter picks = (items.filter picks).modifyHead change := by
  induction items with
  | nil => rfl
  | cons item rest ih =>
    rw [updateFirst]
    by_cases picked : picks item = true
    · rw [if_pos picked, List.filter_cons_of_pos ((kept item).trans picked),
        List.filter_cons_of_pos picked, List.modifyHead_cons]
    · rw [if_neg picked, List.filter_cons_of_neg picked, List.filter_cons_of_neg picked, ih]

private theorem filter_updateFirst_of_apart (kept : ∀ item, tests (change item) = tests item)
    (apart : ∀ item ∈ items, picks item = true → tests item = false) :
    (updateFirst picks change items).filter tests = items.filter tests := by
  induction items with
  | nil => rfl
  | cons item rest ih =>
    obtain ⟨here, behind⟩ := List.forall_mem_cons.mp apart
    rw [updateFirst]
    by_cases picked : picks item = true
    · have other : ¬tests item = true := Bool.eq_false_iff.mp (here picked)
      rw [if_pos picked, List.filter_cons_of_neg ((kept item).symm ▸ other),
        List.filter_cons_of_neg other]
    · rw [if_neg picked, List.filter_cons, List.filter_cons, ih behind]

/-- The first item that the test picks is changed, or else there is a new one. -/
theorem filter_upsert (kept : ∀ item, picks (change item) = picks item)
    (own : picks fresh = true) :
    (upsert picks change fresh items).filter picks =
      match items.filter picks with
      | [] => [fresh]
      | first :: rest => change first :: rest := by
  unfold upsert
  by_cases there : items.any picks = true
  · rw [if_pos there, filter_updateFirst kept]
    cases found : items.filter picks with
    | nil =>
      obtain ⟨item, member, picked⟩ := List.any_eq_true.mp there
      exact absurd picked (List.filter_eq_nil_iff.mp found item member)
    | cons first rest => rfl
  · have absent : items.filter picks = [] := by
      refine List.filter_eq_nil_iff.mpr fun item member picked => there ?_
      exact List.any_eq_true.mpr ⟨item, member, picked⟩
    rw [if_neg there, List.filter_append, absent, List.filter_cons_of_pos own]
    rfl

/-- What holds of all items still does when one of them is changed or added. -/
theorem forall_mem_upsert {holds : Item → Prop} (each : ∀ item ∈ items, holds item)
    (changed : ∀ item, holds item → holds (change item)) (new : holds fresh) :
    ∀ item ∈ upsert picks change fresh items, holds item := by
  have updated : ∀ item ∈ updateFirst picks change items, holds item := by
    clear new
    induction items with
    | nil => exact each
    | cons item rest ih =>
      obtain ⟨here, behind⟩ := List.forall_mem_cons.mp each
      rw [updateFirst]
      split
      · exact List.forall_mem_cons.mpr ⟨changed item here, behind⟩
      · exact List.forall_mem_cons.mpr ⟨here, ih behind⟩
  unfold upsert
  split
  · exact updated
  · exact List.forall_mem_append.mpr ⟨each, List.forall_mem_singleton.mpr new⟩

theorem filter_upsert_of_apart (kept : ∀ item, tests (change item) = tests item)
    (apart : ∀ item ∈ items, picks item = true → tests item = false)
    (other : tests fresh = false) :
    (upsert picks change fresh items).filter tests = items.filter tests := by
  unfold upsert
  split
  · exact filter_updateFirst_of_apart kept apart
  · rw [List.filter_append, List.filter_cons_of_neg (Bool.eq_false_iff.mp other),
      List.filter_nil, List.append_nil]

end Pipeline

end Keys

/-- The stages that a kind of pipeline permits. -/
def PipelineKind.Permits : PipelineKind → ShaderStage → Prop
  | .graphics, stage => stage ≠ .compute ∧ stage.isRayTracing = false
  | .compute, stage => stage = .compute
  | .rayTracing, stage => stage.isRayTracing = true

namespace Pipeline

theorem stageFault?_eq_none_iff {kind : PipelineKind} {stage : ShaderStage} :
    stageFault? kind stage = none ↔ kind.Permits stage := by
  cases kind <;> simp only [stageFault?, PipelineKind.Permits]
  case graphics =>
    by_cases compute : stage = .compute
    · simp [compute]
    · by_cases rays : stage.isRayTracing <;> simp [compute, rays]
  case compute => by_cases compute : stage = .compute <;> simp [compute]
  case rayTracing => by_cases rays : stage.isRayTracing <;> simp [rays]

/-- Shaders that a pipeline of some kind can have together. -/
structure ShadersFit (kind : PipelineKind) (shaders : List AttachedShader) : Prop where
  distinct : (shaders.map (·.shader)).Nodup
  permitted : ∀ stage ∈ shaders.map (·.stage), kind.Permits stage
  onePerStage : kind ≠ .rayTracing → (shaders.map (·.stage)).Nodup

/-- Nothing is bound twice in one place. -/
structure WellFormed (pipeline : Pipeline) : Prop where
  shaders : ShadersFit pipeline.kind pipeline.shaders
  colorLocations : (pipeline.colorAttachments.map (·.location)).Nodup
  colorBuffers : (pipeline.colorAttachments.map (·.buffer)).Nodup
  vertexLocations : (pipeline.vertexBuffers.map (·.location)).Nodup
  groupNames : (pipeline.groups.map (·.name)).Nodup
  tableNames : (pipeline.tables.map (·.name)).Nodup

variable {pipeline : Pipeline}

theorem wellFormed_new (name : String) (kind : PipelineKind) :
    WellFormed { name := name, kind := kind } := by
  refine ⟨⟨.nil, ?_, fun _ => .nil⟩, .nil, .nil, .nil, .nil, .nil⟩
  exact fun stage member => nomatch member

/-- What well-formedness is about. -/
private def skeleton (pipeline : Pipeline) : Pipeline :=
  { name := ""
    kind := pipeline.kind
    shaders := pipeline.shaders
    colorAttachments := pipeline.colorAttachments
    vertexBuffers := pipeline.vertexBuffers
    groups := pipeline.groups
    tables := pipeline.tables }

private theorem wellFormed_skeleton : pipeline.skeleton.WellFormed ↔ pipeline.WellFormed := by
  constructor
  · intro formed
    exact ⟨formed.shaders, formed.colorLocations, formed.colorBuffers, formed.vertexLocations,
      formed.groupNames, formed.tableNames⟩
  · intro formed
    exact ⟨formed.shaders, formed.colorLocations, formed.colorBuffers, formed.vertexLocations,
      formed.groupNames, formed.tableNames⟩

private theorem WellFormed.of_skeleton {after : Pipeline} (formed : pipeline.WellFormed)
    (same : after.skeleton = pipeline.skeleton) : after.WellFormed := by
  rw [← wellFormed_skeleton, same, wellFormed_skeleton]
  exact formed

theorem WellFormed.withShaders (formed : pipeline.WellFormed) {shaders : List AttachedShader}
    (fit : ShadersFit pipeline.kind shaders) : { pipeline with shaders }.WellFormed :=
  ⟨fit, formed.colorLocations, formed.colorBuffers, formed.vertexLocations, formed.groupNames,
    formed.tableNames⟩

variable {kind : PipelineKind} {shaders : List AttachedShader}

theorem ShadersFit.append (fit : ShadersFit kind shaders) {attached : AttachedShader}
    (free : attached.shader ∉ shaders.map (·.shader)) (permitted : kind.Permits attached.stage)
    (new : kind ≠ .rayTracing → attached.stage ∉ shaders.map (·.stage)) :
    ShadersFit kind (shaders ++ [attached]) := by
  refine ⟨nodup_keys_append fit.distinct free, ?_, ?_⟩
  · intro stage member
    rw [List.map_append, List.mem_append] at member
    rcases member with old | last
    · exact fit.permitted stage old
    · exact List.mem_singleton.mp last ▸ permitted
  · exact fun raster => nodup_keys_append (fit.onePerStage raster) (new raster)

theorem ShadersFit.replace (fit : ShadersFit kind shaders) {picks : AttachedShader → Bool}
    {change : AttachedShader → AttachedShader} {id : Id Shader}
    (free : id ∉ shaders.map (·.shader)) (renewed : ∀ attached, (change attached).shader = id)
    (same : ∀ attached, (change attached).stage = attached.stage) :
    ShadersFit kind (updateFirst picks change shaders) := by
  have stages : (updateFirst picks change shaders).map (·.stage) = shaders.map (·.stage) :=
    map_updateFirst_of_same same
  refine ⟨nodup_keys_updateFirst renewed fit.distinct free, ?_, ?_⟩
  · rw [stages]
    exact fit.permitted
  · rw [stages]
    exact fit.onePerStage

/-- A change of a shader's settings: which shader it is and its stage stay as they are. -/
def IsSetting (change : AttachedShader → AttachedShader) : Prop :=
  ∀ attached, (change attached).shader = attached.shader ∧
    (change attached).stage = attached.stage

theorem ShadersFit.change (fit : ShadersFit kind shaders) {picks : AttachedShader → Bool}
    {change : AttachedShader → AttachedShader} (setting : IsSetting change) :
    ShadersFit kind (updateFirst picks change shaders) := by
  have ids : (updateFirst picks change shaders).map (·.shader) = shaders.map (·.shader) :=
    map_updateFirst_of_same fun attached => (setting attached).1
  have stages : (updateFirst picks change shaders).map (·.stage) = shaders.map (·.stage) :=
    map_updateFirst_of_same fun attached => (setting attached).2
  refine ⟨?_, ?_, ?_⟩
  · rw [ids]
    exact fit.distinct
  · rw [stages]
    exact fit.permitted
  · rw [stages]
    exact fit.onePerStage

private theorem secures_attachShader (id : Id Shader) (shader : Shader) (stage : ShaderStage) :
    Edit.Secures WellFormed (attachShader id shader stage) := by
  intro start
  unfold attachShader
  refine Edit.leads_get_bind fun seen same => ?_
  subst seen
  dsimp only
  cases refused : stageFault? start.kind stage with
  | some cause => exact Edit.leads_bind_of_throw fun _ same => same
  | none =>
    have permitted := stageFault?_eq_none_iff.mp refused
    refine Edit.leads_guard (fun _ same => same) fun attached => ?_
    have free : id ∉ start.shaders.map (·.shader) := not_mem_keys attached
    rintro state rfl formed
    refine formed.withShaders ?_
    split
    · exact formed.shaders.replace free (fun _ => rfl) (fun _ => rfl)
    · rename_i new
      refine formed.shaders.append free permitted fun raster => ?_
      have rays : state.isRayTracing = false := by simpa [isRayTracing] using raster
      have vacant : stage ∉ state.shaders.map (·.stage) := not_mem_keys (by simpa [rays] using new)
      exact vacant

theorem maintains_changeSetting (shader purpose : String)
    {change : AttachedShader → AttachedShader} (setting : IsSetting change) :
    Edit.Maintains WellFormed (changeShader shader purpose change) := by
  unfold changeShader
  refine Edit.maintains_get_bind fun seen formed => Edit.maintains_guard ?_
  exact Edit.maintains_set (formed.withShaders (formed.shaders.change setting))

-- The settings below have checks of their own.
private theorem maintains_setEntryPoint_wellFormed (shader entryPoint : String) :
    Edit.Maintains WellFormed (setEntryPoint shader entryPoint) := by
  unfold setEntryPoint
  refine Edit.maintains_guard (Edit.maintains_get_bind fun seen _ => ?_)
  split
  · exact Edit.maintains_throw _
  · exact Edit.maintains_guard (maintains_changeSetting _ _ fun _ => ⟨rfl, rfl⟩)

private theorem maintains_setOptimizations_wellFormed (shader : String) (passes : List String) :
    Edit.Maintains WellFormed (setOptimizations shader passes) := by
  unfold setOptimizations
  dsimp only
  split
  · exact Edit.maintains_bind_of_throw _ _
  · exact maintains_changeSetting _ _ fun _ => ⟨rfl, rfl⟩

private theorem secures_addVertexBuffer (binding : BufferBinding) :
    Edit.Secures WellFormed (addVertexBuffer binding) := by
  refine Edit.secures_checked fun pipeline vacant formed => ?_
  have free : binding.location ∉ pipeline.vertexBuffers.map (·.location) := not_mem_keys vacant
  exact ⟨formed.shaders, formed.colorLocations, formed.colorBuffers,
    nodup_keys_append formed.vertexLocations free, formed.groupNames, formed.tableNames⟩

theorem secures_addGroup (group : ShaderGroup) : Edit.Secures WellFormed (addGroup group) := by
  refine Edit.secures_checked fun pipeline vacant formed => ?_
  have free : group.name ∉ pipeline.groups.map (·.name) := not_mem_keys vacant
  exact ⟨formed.shaders, formed.colorLocations, formed.colorBuffers, formed.vertexLocations,
    nodup_keys_append formed.groupNames free, formed.tableNames⟩

theorem secures_addTable (table : BindingTable) : Edit.Secures WellFormed (addTable table) := by
  refine Edit.secures_checked fun pipeline vacant formed => ?_
  have free : table.name ∉ pipeline.tables.map (·.name) := not_mem_keys vacant
  exact ⟨formed.shaders, formed.colorLocations, formed.colorBuffers, formed.vertexLocations,
    formed.groupNames, nodup_keys_append formed.tableNames free⟩

private theorem secures_setIndexBuffer (buffer : Id Buffer) :
    Edit.Secures WellFormed (setIndexBuffer buffer) :=
  Edit.secures_checked fun _ _ formed => formed.of_skeleton rfl

private theorem secures_setPushConstantBuffer (buffer : Id Buffer) :
    Edit.Secures WellFormed (setPushConstantBuffer buffer) :=
  Edit.secures_checked fun _ _ formed => formed.of_skeleton rfl

end Pipeline

namespace Workbench

def WellFormed (bench : Workbench) : Prop := bench.pipeline.WellFormed

private theorem secures_onPipeline {operation : Edit Pipeline Unit}
    (secures : Edit.Secures Pipeline.WellFormed operation) :
    Edit.Secures WellFormed (onPipeline operation) :=
  secures.onPart (fun _ => rfl) fun _ _ => rfl

theorem colorFault?_eq_none_iff {attachments : List BufferBinding} {buffer : Id Buffer}
    {location : Nat} :
    colorFault? attachments buffer location = none ↔
      location ∉ attachments.map (·.location) ∧ buffer ∉ attachments.map (·.buffer) := by
  induction attachments with
  | nil => simp [colorFault?]
  | cons attachment rest ih =>
    rw [colorFault?] at ih
    rw [colorFault?, List.findSome?_cons, List.map_cons, List.map_cons, List.mem_cons,
      List.mem_cons]
    by_cases located : attachment.location = location
    · simp [located]
    · by_cases bound : attachment.buffer = buffer
      · simp [located, bound]
      · simp [located, bound, Ne.symm located, Ne.symm bound, ih]

theorem leads_fitToFramebuffer (start : Workbench) (id : Id Buffer) (mipLevel : Nat) :
    Edit.Leads (· = start) (· = start) (fun _ bench => bench.pipeline = start.pipeline)
      (fitToFramebuffer id mipLevel) := by
  unfold fitToFramebuffer
  refine Edit.leads_get_bind fun seen same => ?_
  subst seen
  have measured : Edit.Leads (· = start) (· = start) (fun _ => (· = start))
      (Edit.ofExcept (attachmentExtent start.pipeline.width start.pipeline.height mipLevel)) :=
    Edit.leads_ofExcept (fun _ _ same => same) fun _ same => same
  refine Edit.leads_bind measured fun extent => ?_
  rintro bench rfl
  rw [sizeBuffer, apply_onBuffer]
  cases bench.buffers.requireBuffer id with
  | error fault => rfl
  | ok buffer => rfl

private theorem secures_addColorAttachment (buffer : Id Buffer) (location mipLevel : Nat) :
    Edit.Secures WellFormed (addColorAttachment buffer location mipLevel) := by
  intro start
  unfold addColorAttachment
  refine Edit.leads_get_bind fun seen same => ?_
  subst seen
  dsimp only
  cases refused : colorFault? start.pipeline.colorAttachments buffer location with
  | some cause => exact Edit.leads_bind_of_throw fun _ same => same
  | none =>
    obtain ⟨vacant, unbound⟩ := colorFault?_eq_none_iff.mp refused
    refine Edit.leads_bind (leads_fitToFramebuffer start buffer mipLevel) fun _ => ?_
    intro bench same formed
    rw [WellFormed, ← same] at formed
    rw [← same] at vacant unbound
    exact ⟨formed.shaders, nodup_keys_append formed.colorLocations vacant,
      nodup_keys_append formed.colorBuffers unbound, formed.vertexLocations, formed.groupNames,
      formed.tableNames⟩

private theorem secures_addResolveTarget (buffer : Id Buffer) :
    Edit.Secures WellFormed (addResolveTarget buffer) := by
  intro start
  refine Edit.leads_bind (leads_fitToFramebuffer start buffer 0) fun _ => ?_
  intro bench same formed
  rw [WellFormed, ← same] at formed
  exact formed.of_skeleton rfl

private theorem secures_setDepthStencil (buffer : Id Buffer) :
    Edit.Secures WellFormed (setDepthStencil buffer) := by
  intro start
  unfold setDepthStencil
  refine Edit.leads_get_bind fun seen same => ?_
  subst seen
  refine Edit.leads_guard (fun _ same => same) fun _ => ?_
  refine Edit.leads_bind (leads_fitToFramebuffer start buffer 0) fun _ => ?_
  intro bench same formed
  rw [WellFormed, ← same] at formed
  exact formed.of_skeleton rfl

theorem enduring_wellFormed : Enduring WellFormed where
  pushConstants _ _ formed := formed.of_skeleton rfl
  arguments _ _ _ _ formed := formed.of_skeleton rfl
  contents _ _ _ _ _ _ _ formed := formed
  sampled _ _ formed := formed.of_skeleton rfl
  bound _ _ formed := formed.of_skeleton rfl
  literals _ formed := formed.of_skeleton rfl

/-- An operation that does no more to a shader's record than change its settings. -/
def Operation.Sealed : Operation → Prop
  | .request (.changeShader _ _ setting) => Pipeline.IsSetting setting
  | _ => True

/-- The operations that bind something, or name it, and may refuse to. -/
inductive Operation.Binds : Operation → Prop where
  | attachShader (id : Id Shader) (shader : Shader) (stage : ShaderStage) :
    Binds (.request (.attachShader id shader stage))
  | addColorAttachment (buffer : Id Buffer) (location mipLevel : Nat) :
    Binds (.addColorAttachment buffer location mipLevel)
  | setDepthStencil (buffer : Id Buffer) : Binds (.setDepthStencil buffer)
  | addResolveTarget (buffer : Id Buffer) : Binds (.addResolveTarget buffer)
  | addVertexBuffer (binding : BufferBinding) : Binds (.request (.addVertexBuffer binding))
  | setIndexBuffer (buffer : Id Buffer) : Binds (.request (.setIndexBuffer buffer))
  | setPushConstantBuffer (buffer : Id Buffer) : Binds (.request (.setPushConstantBuffer buffer))
  | addGroup (group : ShaderGroup) : Binds (.request (.addGroup group))
  | addTable (table : BindingTable) : Binds (.request (.addTable table))

theorem Operation.Binds.secures {operation : Operation} (binds : operation.Binds) :
    Edit.Secures WellFormed operation.edit := by
  cases binds with
  | attachShader id shader stage =>
    exact secures_onPipeline (Pipeline.secures_attachShader id shader stage)
  | addColorAttachment buffer location mipLevel =>
    exact secures_addColorAttachment buffer location mipLevel
  | setDepthStencil buffer => exact secures_setDepthStencil buffer
  | addResolveTarget buffer => exact secures_addResolveTarget buffer
  | addVertexBuffer binding => exact secures_onPipeline (Pipeline.secures_addVertexBuffer binding)
  | setIndexBuffer buffer => exact secures_onPipeline (Pipeline.secures_setIndexBuffer buffer)
  | setPushConstantBuffer buffer =>
    exact secures_onPipeline (Pipeline.secures_setPushConstantBuffer buffer)
  | addGroup group => exact secures_onPipeline (Pipeline.secures_addGroup group)
  | addTable table => exact secures_onPipeline (Pipeline.secures_addTable table)

theorem Operation.maintains_request {request : Pipeline.Request}
    (settled : Sealed (.request request)) :
    Edit.Maintains WellFormed (Operation.edit (.request request)) := by
  have lifted {edit : Edit Pipeline Unit} (maintained : Edit.Maintains Pipeline.WellFormed edit) :
      Edit.Maintains WellFormed (onPipeline edit) := maintains_onPipeline maintained
  cases request with
  | attachShader id shader stage => exact (Binds.attachShader id shader stage).secures.maintains
  | setIndexBuffer buffer => exact (Binds.setIndexBuffer buffer).secures.maintains
  | addVertexBuffer binding => exact (Binds.addVertexBuffer binding).secures.maintains
  | setPushConstantBuffer buffer => exact (Binds.setPushConstantBuffer buffer).secures.maintains
  | addGroup group => exact (Binds.addGroup group).secures.maintains
  | addTable table => exact (Binds.addTable table).secures.maintains
  | setEntryPoint shader entryPoint =>
    exact lifted (Pipeline.maintains_setEntryPoint_wellFormed shader entryPoint)
  | setOptimizations shader passes =>
    exact lifted (Pipeline.maintains_setOptimizations_wellFormed shader passes)
  | setSubgroupSize shader size =>
    refine lifted (Edit.maintains_guard ?_)
    exact Pipeline.maintains_changeSetting _ _ fun _ => ⟨rfl, rfl⟩
  | changeShader shader purpose change =>
    exact lifted (Pipeline.maintains_changeSetting shader purpose settled)
  | placeArguments buffers => exact enduring_wellFormed.placeArguments buffers
  | validate buffers =>
    refine lifted (Pipeline.maintains_validate (fun pipeline verdict formed => ?_) buffers)
    exact formed.of_skeleton rfl

theorem Operation.maintains_wellFormed {operation : Operation} (settled : operation.Sealed) :
    Edit.Maintains WellFormed operation.edit := by
  cases operation with
  | change made =>
    refine maintains_changePipeline fun pipeline formed => ?_
    cases made <;> exact Pipeline.WellFormed.of_skeleton formed rfl
  | request asked => exact maintains_request settled
  | addColorAttachment buffer location mipLevel =>
    exact (Binds.addColorAttachment buffer location mipLevel).secures.maintains
  | addResolveTarget buffer => exact (Binds.addResolveTarget buffer).secures.maintains
  | setDepthStencil buffer => exact (Binds.setDepthStencil buffer).secures.maintains
  | fitAttachments => exact maintains_fitAttachments
  | makeArgumentBuffers => exact maintains_makeArgumentBuffers enduring_wellFormed.toLasting
  | makeLiteralSamplers => exact Edit.maintains_modify enduring_wellFormed.literals
  | makePushConstants => exact maintains_makePushConstants enduring_wellFormed.toLasting
  | prepareKernel => exact maintains_prepareKernel enduring_wellFormed
  | copyPipeline name =>
    exact Edit.maintains_bind (maintains_copyPipeline name) fun _ => Edit.maintains_pure _
  | replaceStores buffers samplers => exact Edit.maintains_modify fun _ formed => formed

/-- Operations one after the other keep a pipeline well-formed, also where some of them fail. -/
theorem wellFormed_perform {bench : Workbench} (formed : bench.WellFormed)
    {operations : List Operation} (settled : ∀ operation ∈ operations, operation.Sealed) :
    (bench.perform operations).WellFormed := by
  induction operations generalizing bench with
  | nil => exact formed
  | cons operation rest ih =>
    rw [List.forall_mem_cons] at settled
    exact ih (Operation.maintains_wellFormed settled.1 bench formed) settled.2

theorem wellFormed_copyPipeline {bench after : Workbench} {name : String} {copy : Pipeline}
    (formed : bench.WellFormed) (copied : (copyPipeline name).apply bench = (.ok copy, after)) :
    copy.WellFormed := by
  have begun : (bench.withCopy name).WellFormed :=
    ⟨formed.shaders, formed.colorLocations, formed.colorBuffers, formed.vertexLocations, .nil, .nil⟩
  obtain ⟨made, held, -, same⟩ := enduring_wellFormed.toLasting.copyPipeline begun copied
  obtain rfl := same copy rfl
  exact held

end Workbench

namespace Pipeline

/-- A pipeline that operations and copying lead to from a new one. -/
inductive Reachable : Pipeline → Prop where
  | new (name : String) (kind : PipelineKind) : Reachable { name, kind }
  | perform {bench : Workbench} (reachable : Reachable bench.pipeline)
    {operations : List Workbench.Operation}
    (settled : ∀ operation ∈ operations, operation.Sealed) :
    Reachable (bench.perform operations).pipeline
  | copy {bench after : Workbench} (reachable : Reachable bench.pipeline) {name : String}
    {copy : Pipeline} (copied : (Workbench.copyPipeline name).apply bench = (.ok copy, after)) :
    Reachable copy

theorem Reachable.wellFormed {pipeline : Pipeline} (reachable : pipeline.Reachable) :
    pipeline.WellFormed := by
  induction reachable with
  | new name kind => exact wellFormed_new name kind
  | perform reachable settled ih => exact Workbench.wellFormed_perform ih settled
  | copy reachable copied ih => exact Workbench.wellFormed_copyPipeline ih copied

end Pipeline

end GpuScript
