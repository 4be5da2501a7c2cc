import GpuScript.Pipeline.Validation
import GpuScript.Proofs.Except

/-! What validation asks of a pipeline: completeness, said without the order in which the conditions
are checked. A check of a pipeline succeeds exactly when the pipeline is complete. -/
namespace GpuScript

/-- The extent of a framebuffer at a mip level is in words. -/
structure InWords (width height mipLevel : Nat) : Prop where
  level : mipLevel < 32
  wide : width * 2 ^ mipLevel < wordLimit
  high : height * 2 ^ mipLevel < wordLimit
  count : width * 2 ^ mipLevel * (height * 2 ^ mipLevel) < wordLimit

theorem attachmentExtent_of_inWords {width height mipLevel : Nat}
    (small : InWords width height mipLevel) :
    attachmentExtent width height mipLevel = .ok ⟨width * 2 ^ mipLevel, height * 2 ^ mipLevel,
      width * 2 ^ mipLevel * (height * 2 ^ mipLevel)⟩ := by
  unfold attachmentExtent
  rw [if_neg (Nat.not_le.mpr small.level), if_neg]
  rintro (wide | high | many)
  · exact Nat.not_le.mpr small.wide wide
  · exact Nat.not_le.mpr small.high high
  · exact Nat.not_le.mpr small.count many

theorem inWords_of_attachmentExtent {width height mipLevel : Nat} {extent : Extent}
    (found : attachmentExtent width height mipLevel = .ok extent) :
    InWords width height mipLevel := by
  unfold attachmentExtent at found
  dsimp only at found
  split at found
  · cases found
  · split at found
    · cases found
    · rename_i level small
      simp only [not_or, Nat.not_le] at level small
      exact ⟨level, small.1, small.2.1, small.2.2⟩

namespace Buffer

/-- A buffer has texels at every mip level. -/
structure HasLevels (buffer : Buffer) : Prop where
  width : 1 < buffer.mipLevels → 1 ≤ buffer.width / 2 ^ (buffer.mipLevels - 1)
  height : 1 < buffer.mipLevels → 1 ≤ buffer.height / 2 ^ (buffer.mipLevels - 1)

end Buffer

namespace Pipeline

theorem expect_ok_iff {holds : Bool} {cause : PipelineCause} :
    expect holds cause = .ok ⟨⟩ ↔ holds = true := by
  cases holds <;> simp [expect]

/-- The buffer behind an attachment has one element for each texel of the framebuffer at a mip
level. -/
def Fits (pipeline : Pipeline) (buffers : Store Buffer) (attachment : BufferBinding)
    (mipLevel : Nat) : Prop :=
  ∃ buffer, buffers.get? attachment.buffer = some buffer ∧
    InWords pipeline.width pipeline.height mipLevel ∧
    buffer.elementCount = pipeline.width * 2 ^ mipLevel * (pipeline.height * 2 ^ mipLevel)

theorem checkExtent_ok_iff {pipeline : Pipeline} {buffers : Store Buffer}
    {attachment : BufferBinding} {mipLevel : Nat} {cause : PipelineCause} :
    pipeline.checkExtent buffers attachment mipLevel cause = .ok ⟨⟩ ↔
      pipeline.Fits buffers attachment mipLevel := by
  simp only [checkExtent, bind_ok_iff, Store.requireBuffer_ok_iff, expect_ok_iff, beq_iff_eq]
  constructor
  · rintro ⟨buffer, bound, extent, found, count⟩
    have small := inWords_of_attachmentExtent found
    rw [attachmentExtent_of_inWords small] at found
    cases found
    exact ⟨buffer, bound, small, count⟩
  · rintro ⟨buffer, bound, small, count⟩
    exact ⟨buffer, bound, _, attachmentExtent_of_inWords small, count⟩

def HasFormat (buffers : Store Buffer) (binding : BufferBinding) : Prop :=
  ∃ buffer, buffers.get? binding.buffer = some buffer ∧ buffer.format.isSome

theorem checkFormatOf_ok_iff {buffers : Store Buffer} {binding : BufferBinding} :
    checkFormatOf buffers binding = .ok ⟨⟩ ↔ HasFormat buffers binding := by
  simp only [checkFormatOf, bind_ok_iff, Store.requireBuffer_ok_iff, expect_ok_iff, HasFormat]

theorem le_zeroLevel_iff (side levels : Nat) :
    levels ≤ zeroLevel side ↔ (1 < levels → 1 ≤ side / 2 ^ (levels - 1)) := by
  unfold zeroLevel
  rcases Nat.lt_or_ge 1 levels with many | few
  · rw [Nat.one_le_div_iff (Nat.two_pow_pos _)]
    rcases Nat.eq_zero_or_pos side with rfl | positive
    · simp [Nat.not_le.mpr many]
    · rw [← Nat.le_log2 (Nat.pos_iff_ne_zero.mp positive)]
      omega
  · constructor
    · intro _ many
      omega
    · intro _
      omega

theorem hasLevels_iff (buffer : Buffer) :
    buffer.HasLevels ↔
      ¬min (zeroLevel buffer.width) (zeroLevel buffer.height) < buffer.mipLevels := by
  rw [Nat.not_lt, Nat.le_min, le_zeroLevel_iff, le_zeroLevel_iff]
  exact ⟨fun levels => ⟨levels.width, levels.height⟩, fun sides => ⟨sides.1, sides.2⟩⟩

theorem checkMipLevels_ok_iff {buffers : Store Buffer} {attachment : BufferBinding} :
    checkMipLevels buffers attachment = .ok ⟨⟩ ↔
      ∃ buffer, buffers.get? attachment.buffer = some buffer ∧ buffer.HasLevels := by
  simp only [checkMipLevels, bind_ok_iff, Store.requireBuffer_ok_iff, hasLevels_iff]
  refine exists_congr fun buffer => and_congr_right fun _ => ?_
  split
  · simp [*, throw, throwThe, MonadExceptOf.throw]
  · simp [*, pure, Except.pure]

/-- What a graphics pipeline needs beyond fitting attachments and formats. -/
structure GraphicsComplete (pipeline : Pipeline) (buffers : Store Buffer) : Prop where
  color : pipeline.colorAttachments ≠ []
  vertex : ∃ attached ∈ pipeline.shaders, attached.stage = .vertex
  fragment : ∃ attached ∈ pipeline.shaders, attached.stage = .fragment
  levels : ∀ attachment ∈ pipeline.colorAttachments,
    ∃ buffer, buffers.get? attachment.buffer = some buffer ∧ buffer.HasLevels

theorem hasStage_iff {pipeline : Pipeline} {stage : ShaderStage} :
    pipeline.hasStage stage = true ↔ ∃ attached ∈ pipeline.shaders, attached.stage = stage := by
  simp [hasStage]

theorem checkGraphics_ok_iff {pipeline : Pipeline} {buffers : Store Buffer} :
    pipeline.checkGraphics buffers = .ok ⟨⟩ ↔ pipeline.GraphicsComplete buffers := by
  simp only [checkGraphics, then_ok_iff, forM_ok_iff, expect_ok_iff, hasStage_iff,
    checkMipLevels_ok_iff, Bool.not_eq_true', List.isEmpty_eq_false_iff]
  constructor
  · rintro ⟨color, vertex, fragment, levels⟩
    exact ⟨color, vertex, fragment, levels⟩
  · rintro ⟨color, vertex, fragment, levels⟩
    exact ⟨color, vertex, fragment, levels⟩

def Attaches (pipeline : Pipeline) (permitted : ShaderStage → Bool) (shader : Id Shader) : Prop :=
  ∃ attached, pipeline.shaders.find? (·.shader == shader) = some attached ∧
    permitted attached.stage = true

theorem checkGroupSlot_ok_iff {pipeline : Pipeline} {group slot : String}
    {permitted : ShaderStage → Bool} {named : Option (Id Shader)} :
    pipeline.checkGroupSlot group slot permitted named = .ok ⟨⟩ ↔
      ∀ shader ∈ named, pipeline.Attaches permitted shader := by
  cases named with
  | none => simp [checkGroupSlot]
  | some shader =>
    simp only [checkGroupSlot, Option.mem_some_iff, forall_eq', Attaches]
    cases pipeline.shaders.find? (·.shader == shader) with
    | none => simp
    | some attached => simp [expect_ok_iff]

/-- A group is exactly one of a general and a hit group, and its shaders fit their slots. -/
structure GroupComplete (pipeline : Pipeline) (group : ShaderGroup) : Prop where
  exclusive : group.isGeneral ≠ group.isHit
  general : ∀ shader ∈ group.general, pipeline.Attaches ShaderStage.isGeneral shader
  closestHit : ∀ shader ∈ group.closestHit, pipeline.Attaches (· == .closestHit) shader
  anyHit : ∀ shader ∈ group.anyHit, pipeline.Attaches (· == .anyHit) shader
  intersection : ∀ shader ∈ group.intersection, pipeline.Attaches (· == .intersection) shader

theorem checkGroup_ok_iff {pipeline : Pipeline} {group : ShaderGroup} :
    pipeline.checkGroup group = .ok ⟨⟩ ↔ pipeline.GroupComplete group := by
  have exclusive : group.isGeneral ≠ group.isHit ↔
      (!(group.isGeneral && group.isHit)) = true ∧ (group.isGeneral || group.isHit) = true := by
    cases group.isGeneral <;> cases group.isHit <;> simp
  simp only [checkGroup, then_ok_iff, expect_ok_iff, checkGroupSlot_ok_iff]
  constructor
  · rintro ⟨notBoth, either, general, closestHit, anyHit, intersection⟩
    exact ⟨exclusive.mpr ⟨notBoth, either⟩, general, closestHit, anyHit, intersection⟩
  · rintro ⟨one, general, closestHit, anyHit, intersection⟩
    exact ⟨(exclusive.mp one).1, (exclusive.mp one).2, general, closestHit, anyHit, intersection⟩

/-- A record that does not go to a library names a group of the pipeline. -/
def RecordComplete (pipeline : Pipeline) (record : TableRecord) : Prop :=
  record.libraryIndex = wordMax → ∃ group ∈ pipeline.groups, group.name = record.group

theorem groupIndex?_isSome_iff {pipeline : Pipeline} {name : String} :
    (pipeline.groupIndex? name).isSome = true ↔ ∃ group ∈ pipeline.groups, group.name = name := by
  simp [groupIndex?, List.findIdx?_isSome]

theorem checkTable_ok_iff {pipeline : Pipeline} {table : BindingTable} :
    pipeline.checkTable table = .ok ⟨⟩ ↔
      ∀ record ∈ table.records, pipeline.RecordComplete record := by
  simp only [checkTable, forM_ok_iff, expect_ok_iff, Bool.or_eq_true, bne_iff_ne,
    groupIndex?_isSome_iff, RecordComplete]
  refine forall_congr' fun record => imp_congr_right fun _ => ?_
  exact (Decidable.imp_iff_not_or).symm

/-- What a ray tracing pipeline needs beyond fitting attachments and formats. -/
structure RayTracingComplete (pipeline : Pipeline) : Prop where
  rayGeneration : ∃ attached ∈ pipeline.shaders, attached.stage = .rayGeneration
  someGroup : pipeline.groups ≠ []
  groups : ∀ group ∈ pipeline.groups, pipeline.GroupComplete group
  tables : ∀ table ∈ pipeline.tables, ∀ record ∈ table.records, pipeline.RecordComplete record

theorem checkRayTracing_ok_iff {pipeline : Pipeline} :
    pipeline.checkRayTracing = .ok ⟨⟩ ↔ pipeline.RayTracingComplete := by
  simp only [checkRayTracing, then_ok_iff, forM_ok_iff, expect_ok_iff, hasStage_iff,
    checkGroup_ok_iff, checkTable_ok_iff, Bool.not_eq_true', List.isEmpty_eq_false_iff]
  constructor
  · rintro ⟨rayGeneration, someGroup, groups, tables⟩
    exact ⟨rayGeneration, someGroup, groups, tables⟩
  · rintro ⟨rayGeneration, someGroup, groups, tables⟩
    exact ⟨rayGeneration, someGroup, groups, tables⟩

def KindComplete (pipeline : Pipeline) (buffers : Store Buffer) : Prop :=
  match pipeline.kind with
  | .graphics => pipeline.GraphicsComplete buffers
  | .compute => pipeline.shaders ≠ []
  | .rayTracing => pipeline.RayTracingComplete

/-- A pipeline fits the buffers bound to it and has all that its kind of work needs. -/
structure Complete (pipeline : Pipeline) (buffers : Store Buffer) : Prop where
  colors : ∀ attachment ∈ pipeline.colorAttachments,
    pipeline.Fits buffers attachment attachment.baseMipLevel
  depth : ∀ attachment ∈ pipeline.depthStencil, pipeline.Fits buffers attachment 0
  formats : ∀ binding ∈ pipeline.buffers, HasFormat buffers binding
  kind : pipeline.KindComplete buffers

/-- A pipeline passes its checks exactly when it is complete. -/
theorem check_ok_iff {pipeline : Pipeline} {buffers : Store Buffer} :
    pipeline.check buffers = .ok ⟨⟩ ↔ pipeline.Complete buffers := by
  have kind : (match pipeline.kind with
      | .graphics => pipeline.checkGraphics buffers
      | .compute => expect (!pipeline.shaders.isEmpty) .noComputeShader
      | .rayTracing => pipeline.checkRayTracing) = .ok ⟨⟩ ↔ pipeline.KindComplete buffers := by
    unfold KindComplete
    cases pipeline.kind with
    | graphics => exact checkGraphics_ok_iff
    | compute => simp [expect_ok_iff]
    | rayTracing => exact checkRayTracing_ok_iff
  simp only [check, then_ok_iff, forM_ok_iff, checkExtent_ok_iff, checkFormatOf_ok_iff,
    Option.mem_toList]
  constructor
  · rintro ⟨colors, depth, formats, checked⟩
    exact ⟨colors, depth, formats, kind.mp checked⟩
  · rintro ⟨colors, depth, formats, complete⟩
    exact ⟨colors, depth, formats, kind.mpr complete⟩

end Pipeline

end GpuScript
