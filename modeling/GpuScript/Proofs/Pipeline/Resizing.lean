import GpuScript.Proofs.Pipeline.Bindings
import GpuScript.Proofs.Pipeline.Completeness
import GpuScript.Proofs.Pipeline.Storing

namespace GpuScript

/-- Where a framebuffer has texels, a mip level past the last bit of a word is too large by its
sides already. -/
theorem not_inWords_iff {width height mipLevel : Nat} (texels : 0 < width * height) :
    ¬InWords width height mipLevel ↔
      wordLimit ≤ width * 2 ^ mipLevel ∨ wordLimit ≤ height * 2 ^ mipLevel ∨
        wordLimit ≤ width * 2 ^ mipLevel * (height * 2 ^ mipLevel) := by
  constructor
  · intro large
    refine Decidable.byContradiction fun small => large ?_
    simp only [not_or, Nat.not_le] at small
    obtain ⟨wide, high, count⟩ := small
    have least : 2 ^ mipLevel ≤ width * 2 ^ mipLevel :=
      Nat.le_mul_of_pos_left _ (Nat.pos_of_mul_pos_right texels)
    have level : 2 ^ mipLevel < 2 ^ 32 := Nat.lt_of_le_of_lt least wide
    exact ⟨(Nat.pow_lt_pow_iff_right (by decide)).mp level, wide, high, count⟩
  · rintro (wide | high | count) small
    · exact Nat.not_le.mpr small.wide wide
    · exact Nat.not_le.mpr small.high high
    · exact Nat.not_le.mpr small.count count

/-- At the base level only the number of texels can be too large. -/
theorem inWords_zero_iff {width height : Nat} (wide : width < wordLimit)
    (high : height < wordLimit) : InWords width height 0 ↔ width * height < wordLimit := by
  constructor
  · intro small
    have count := small.count
    rwa [Nat.pow_zero, Nat.mul_one, Nat.mul_one] at count
  · intro count
    refine ⟨by decide, ?_, ?_, ?_⟩ <;> simpa only [Nat.pow_zero, Nat.mul_one]

namespace Buffer

/-- The buffer as an image of a framebuffer's size at a mip level. -/
def atLevel (buffer : Buffer) (width height mipLevel : Nat) : Buffer :=
  buffer.withExtent (width * 2 ^ mipLevel) (height * 2 ^ mipLevel)
    (width * 2 ^ mipLevel * (height * 2 ^ mipLevel))

end Buffer

/-- The buffers of the attachments that are sized to a framebuffer, each with its mip level. -/
def Pipeline.attachmentLevels (pipeline : Pipeline) : List (Id Buffer × Nat) :=
  pipeline.colorAttachments.map (fun attachment => (attachment.buffer, attachment.baseMipLevel)) ++
    pipeline.depthStencil.toList.map fun depth => (depth.buffer, 0)

namespace Workbench

/-- A bench with some buffers at the framebuffer's size at their mip levels, and all else as it
was. -/
structure Resized (levels : List (Id Buffer × Nat)) (before after : Workbench) : Prop where
  pipeline : after.pipeline = before.pipeline
  samplers : after.samplers = before.samplers
  sized : ∀ entry ∈ levels, ∃ buffer, before.buffers.get? entry.1 = some buffer ∧
    after.buffers.get? entry.1 =
      some (buffer.atLevel before.pipeline.width before.pipeline.height entry.2)
  others : ∀ id, id ∉ levels.map Prod.fst → after.buffers.get? id = before.buffers.get? id

theorem Resized.refl (bench : Workbench) : Resized [] bench bench :=
  ⟨rfl, rfl, nofun, fun _ _ => rfl⟩

theorem Resized.trans {first second : List (Id Buffer × Nat)} {before between after : Workbench}
    (left : Resized first before between) (right : Resized second between after)
    (apart : ∀ id ∈ first.map Prod.fst, id ∉ second.map Prod.fst) :
    Resized (first ++ second) before after := by
  refine ⟨right.pipeline.trans left.pipeline, right.samplers.trans left.samplers, ?_, ?_⟩
  · intro entry member
    rcases List.mem_append.mp member with early | late
    · obtain ⟨buffer, found, sized⟩ := left.sized entry early
      refine ⟨buffer, found, ?_⟩
      rw [right.others entry.1 (apart entry.1 (List.mem_map_of_mem early)), sized]
    · obtain ⟨buffer, found, sized⟩ := right.sized entry late
      refine ⟨buffer, ?_, ?_⟩
      · have untouched : entry.1 ∉ first.map Prod.fst := fun again =>
          apart entry.1 again (List.mem_map_of_mem late)
        rw [← left.others entry.1 untouched, found]
      · rw [sized, left.pipeline]
  · intro id absent
    rw [List.map_append, List.mem_append, not_or] at absent
    rw [right.others id absent.2, left.others id absent.1]

theorem sizeBuffer_ok {bench after : Workbench} {id : Id Buffer} {width height mipLevel : Nat} :
    (sizeBuffer id ⟨width * 2 ^ mipLevel, height * 2 ^ mipLevel,
      width * 2 ^ mipLevel * (height * 2 ^ mipLevel)⟩).apply bench = (.ok ⟨⟩, after) ↔
      ∃ buffer, bench.buffers.get? id = some buffer ∧
        after = bench.setBuffer id (buffer.atLevel width height mipLevel) := by
  constructor
  · intro done
    obtain ⟨buffer, changed, there, made, rfl⟩ := onBuffer_ok.mp done
    cases made
    exact ⟨buffer, there, rfl⟩
  · rintro ⟨buffer, there, rfl⟩
    exact onBuffer_ok.mpr ⟨buffer, _, there, rfl, rfl⟩

theorem fitToFramebuffer_ok {bench after : Workbench} {id : Id Buffer} {mipLevel : Nat} :
    (fitToFramebuffer id mipLevel).apply bench = (.ok ⟨⟩, after) ↔
      InWords bench.pipeline.width bench.pipeline.height mipLevel ∧
        ∃ buffer, bench.buffers.get? id = some buffer ∧
          after = bench.setBuffer id
            (buffer.atLevel bench.pipeline.width bench.pipeline.height mipLevel) := by
  unfold fitToFramebuffer
  rw [Edit.apply_bind_of_ok (Edit.apply_get bench)]
  constructor
  · intro done
    obtain ⟨extent, found, done⟩ := Edit.bind_ofExcept_ok done
    have small := inWords_of_attachmentExtent found
    rw [attachmentExtent_of_inWords small] at found
    cases found
    exact ⟨small, sizeBuffer_ok.mp done⟩
  · rintro ⟨small, sized⟩
    dsimp only
    rw [attachmentExtent_of_inWords small, Edit.apply_bind_of_ok (Edit.apply_ofExcept _ _)]
    exact sizeBuffer_ok.mpr sized

theorem resized_of_fitToFramebuffer {bench after : Workbench} {id : Id Buffer} {mipLevel : Nat}
    (done : (fitToFramebuffer id mipLevel).apply bench = (.ok ⟨⟩, after)) :
    Resized [(id, mipLevel)] bench after := by
  obtain ⟨-, buffer, there, rfl⟩ := fitToFramebuffer_ok.mp done
  refine ⟨rfl, rfl, ?_, ?_⟩
  · rintro entry member
    obtain rfl := List.mem_singleton.mp member
    exact ⟨buffer, there, Store.get?_set_self there _⟩
  · intro other absent
    exact Store.get?_set_of_ne _ (fun same => absent (List.mem_singleton.mpr same.symm)) _

def Has (bench : Workbench) (id : Id Buffer) : Prop :=
  ∃ buffer, bench.buffers.get? id = some buffer

theorem Resized.has {levels : List (Id Buffer × Nat)} {before after : Workbench}
    (resized : Resized levels before after) {id : Id Buffer} (has : before.Has id) :
    after.Has id := by
  by_cases member : id ∈ levels.map Prod.fst
  · obtain ⟨entry, found, rfl⟩ := List.mem_map.mp member
    obtain ⟨buffer, -, sized⟩ := resized.sized entry found
    exact ⟨_, sized⟩
  · obtain ⟨buffer, found⟩ := has
    exact ⟨buffer, (resized.others id member).trans found⟩

/-- Where the attachments have buffers of their own, sizing them one after the other sizes all. -/
theorem resized_of_fitColorAttachments {attachments : List BufferBinding} {bench after : Workbench}
    (distinct : (attachments.map (·.buffer)).Nodup)
    (done : (fitColorAttachments attachments).apply bench = (.ok ⟨⟩, after)) :
    Resized (attachments.map fun attachment => (attachment.buffer, attachment.baseMipLevel))
      bench after := by
  induction attachments generalizing bench with
  | nil =>
    cases done
    exact .refl _
  | cons attachment rest ih =>
    obtain ⟨alone, distinct⟩ := List.nodup_cons.mp distinct
    rw [fitColorAttachments] at done
    obtain ⟨⟨⟩, between, first, later⟩ := Edit.bind_ok.mp done
    refine (resized_of_fitToFramebuffer first).trans (ih distinct later) ?_
    simpa [Function.comp_def] using alone

/-- The attachments are sized unless one of them is too large. -/
theorem succeeds_fitColorAttachments_iff {attachments : List BufferBinding} {bench : Workbench}
    (stored : ∀ attachment ∈ attachments, bench.Has attachment.buffer) :
    (fitColorAttachments attachments).Succeeds bench ↔
      ∀ attachment ∈ attachments,
        InWords bench.pipeline.width bench.pipeline.height attachment.baseMipLevel := by
  induction attachments generalizing bench with
  | nil => exact iff_of_true (Edit.succeeds_pure () bench) (List.forall_mem_nil _)
  | cons attachment rest ih =>
    obtain ⟨here, behind⟩ := List.forall_mem_cons.mp stored
    rw [List.forall_mem_cons]
    have after {between : Workbench}
        (first : (fitToFramebuffer attachment.buffer attachment.baseMipLevel).apply bench =
          (.ok ⟨⟩, between)) :
        (fitColorAttachments rest).Succeeds between ↔ ∀ later ∈ rest,
          InWords bench.pipeline.width bench.pipeline.height later.baseMipLevel := by
      have resized := resized_of_fitToFramebuffer first
      rw [ih fun later member => resized.has (behind later member), resized.pipeline]
    rw [fitColorAttachments]
    constructor
    · rintro ⟨⟨⟩, final, done⟩
      obtain ⟨⟨⟩, between, first, later⟩ := Edit.bind_ok.mp done
      exact ⟨(fitToFramebuffer_ok.mp first).1, (after first).mp ⟨⟨⟩, final, later⟩⟩
    · rintro ⟨small, later⟩
      obtain ⟨buffer, found⟩ := here
      have first := fitToFramebuffer_ok.mpr ⟨small, buffer, found, rfl⟩
      exact (Edit.succeeds_bind_of_ok first).mpr ((after first).mpr later)

theorem apply_fitAttachments_empty {bench : Workbench} (wide : bench.pipeline.width < wordLimit)
    (high : bench.pipeline.height < wordLimit)
    (empty : bench.pipeline.width * bench.pipeline.height = 0) :
    fitAttachments.apply bench = (.ok ⟨⟩, bench) := by
  have small : InWords bench.pipeline.width bench.pipeline.height 0 := by
    rw [inWords_zero_iff wide high, empty]
    decide
  unfold fitAttachments
  rw [Edit.apply_bind_of_ok (Edit.apply_get bench)]
  dsimp only
  rw [attachmentExtent_of_inWords small, Edit.apply_bind_of_ok (Edit.apply_ofExcept _ _), if_pos]
  · rfl
  · rwa [Nat.pow_zero, Nat.mul_one, Nat.mul_one]

/-- A framebuffer with texels sizes the depth attachment behind the color attachments, as if it were
one at the base level. -/
theorem fitAttachments_ok {bench after : Workbench}
    (texels : 0 < bench.pipeline.width * bench.pipeline.height) :
    fitAttachments.apply bench = (.ok ⟨⟩, after) ↔
      InWords bench.pipeline.width bench.pipeline.height 0 ∧
        ∃ between, (fitColorAttachments bench.pipeline.colorAttachments).apply bench =
            (.ok ⟨⟩, between) ∧
          match bench.pipeline.depthStencil with
          | none => after = between
          | some depth => (fitToFramebuffer depth.buffer 0).apply between = (.ok ⟨⟩, after) := by
  have rest (small : InWords bench.pipeline.width bench.pipeline.height 0) {between : Workbench}
      (colored : (fitColorAttachments bench.pipeline.colorAttachments).apply bench =
        (.ok ⟨⟩, between)) {depth : BufferBinding} :
      (sizeBuffer depth.buffer ⟨bench.pipeline.width * 2 ^ 0, bench.pipeline.height * 2 ^ 0,
        bench.pipeline.width * 2 ^ 0 * (bench.pipeline.height * 2 ^ 0)⟩).apply between =
          (.ok ⟨⟩, after) ↔
        (fitToFramebuffer depth.buffer 0).apply between = (.ok ⟨⟩, after) := by
    have same : between.pipeline = bench.pipeline := by
      have kept := @maintains_fitColorAttachments (· = bench.pipeline)
        bench.pipeline.colorAttachments bench rfl
      rwa [colored] at kept
    rw [sizeBuffer_ok, fitToFramebuffer_ok, same, and_iff_right small]
  have counted : bench.pipeline.width * 2 ^ 0 * (bench.pipeline.height * 2 ^ 0) ≠ 0 := by
    rw [Nat.pow_zero, Nat.mul_one, Nat.mul_one]
    exact Nat.ne_of_gt texels
  unfold fitAttachments
  rw [Edit.apply_bind_of_ok (Edit.apply_get bench)]
  dsimp only
  constructor
  · intro done
    obtain ⟨extent, found, done⟩ := Edit.bind_ofExcept_ok done
    have small := inWords_of_attachmentExtent found
    rw [attachmentExtent_of_inWords small] at found
    cases found
    rw [if_neg counted] at done
    obtain ⟨⟨⟩, between, colored, done⟩ := Edit.bind_ok.mp done
    refine ⟨small, between, colored, ?_⟩
    cases deep : bench.pipeline.depthStencil with
    | none =>
      rw [deep] at done
      cases done
      rfl
    | some depth =>
      rw [deep] at done
      exact (rest small colored).mp done
  · rintro ⟨small, between, colored, done⟩
    rw [attachmentExtent_of_inWords small, Edit.apply_bind_of_ok (Edit.apply_ofExcept _ _),
      if_neg counted, Edit.apply_bind_of_ok colored]
    cases deep : bench.pipeline.depthStencil with
    | none =>
      rw [deep] at done
      cases done
      rfl
    | some depth =>
      rw [deep] at done
      exact (rest small colored).mpr done

/-- All attachments of a bench have buffers, each its own. -/
private structure Attached (bench : Workbench) : Prop where
  stored : ∀ entry ∈ bench.pipeline.attachmentLevels, bench.Has entry.1
  distinct : (bench.pipeline.attachmentLevels.map Prod.fst).Nodup

variable {bench : Workbench}

private theorem Attached.colors (attached : bench.Attached) :
    ∀ attachment ∈ bench.pipeline.colorAttachments, bench.Has attachment.buffer := fun attachment
    member =>
  attached.stored (attachment.buffer, attachment.baseMipLevel)
    (List.mem_append_left _ (List.mem_map.mpr ⟨attachment, member, rfl⟩))

private theorem Attached.apart (attached : bench.Attached) :
    (bench.pipeline.colorAttachments.map (·.buffer)).Nodup ∧
      ∀ depth ∈ bench.pipeline.depthStencil,
        depth.buffer ∉ bench.pipeline.colorAttachments.map (·.buffer) := by
  have distinct := attached.distinct
  rw [Pipeline.attachmentLevels, List.map_append, List.map_map, List.map_map,
    List.nodup_append] at distinct
  refine ⟨distinct.1, fun depth found member => ?_⟩
  exact distinct.2.2 _ member _ (List.mem_map_of_mem (Option.mem_toList.mpr found)) rfl

private theorem resized_of_fitAttachments {after : Workbench} (attached : bench.Attached)
    (texels : 0 < bench.pipeline.width * bench.pipeline.height)
    (done : fitAttachments.apply bench = (.ok ⟨⟩, after)) :
    Resized bench.pipeline.attachmentLevels bench after := by
  obtain ⟨-, between, colored, done⟩ := (fitAttachments_ok texels).mp done
  obtain ⟨distinct, apart⟩ := attached.apart
  have resized := resized_of_fitColorAttachments distinct colored
  unfold Pipeline.attachmentLevels
  cases deep : bench.pipeline.depthStencil with
  | none =>
    rw [deep] at done
    rw [done]
    simpa using resized
  | some depth =>
    rw [deep] at done
    refine resized.trans (resized_of_fitToFramebuffer done) fun id member same => ?_
    obtain rfl := List.mem_singleton.mp same
    rw [List.map_map] at member
    exact apart depth deep member

private theorem succeeds_fitAttachments_iff (attached : bench.Attached)
    (texels : 0 < bench.pipeline.width * bench.pipeline.height) :
    fitAttachments.Succeeds bench ↔
      InWords bench.pipeline.width bench.pipeline.height 0 ∧
        ∀ attachment ∈ bench.pipeline.colorAttachments,
          InWords bench.pipeline.width bench.pipeline.height attachment.baseMipLevel := by
  rw [← succeeds_fitColorAttachments_iff attached.colors]
  constructor
  · rintro ⟨⟨⟩, after, done⟩
    obtain ⟨small, between, colored, -⟩ := (fitAttachments_ok texels).mp done
    exact ⟨small, ⟨⟩, between, colored⟩
  · rintro ⟨small, ⟨⟩, between, colored⟩
    have resized := resized_of_fitColorAttachments attached.apart.1 colored
    cases deep : bench.pipeline.depthStencil with
    | none =>
      refine ⟨⟨⟩, between, (fitAttachments_ok texels).mpr ⟨small, between, colored, ?_⟩⟩
      rw [deep]
    | some depth =>
      have has : between.Has depth.buffer := by
        refine resized.has (attached.stored (depth.buffer, 0) (List.mem_append_right _ ?_))
        rw [deep]
        exact List.mem_singleton_self _
      obtain ⟨buffer, found⟩ := has
      obtain ⟨after, last⟩ : ∃ after,
          (fitToFramebuffer depth.buffer 0).apply between = (.ok ⟨⟩, after) :=
        ⟨_, fitToFramebuffer_ok.mpr ⟨resized.pipeline.symm ▸ small, buffer, found, rfl⟩⟩
      refine ⟨⟨⟩, after, (fitAttachments_ok texels).mpr ⟨small, between, colored, ?_⟩⟩
      rw [deep]
      exact last

end Workbench

namespace Pipeline

def ofSize : PipelineCause → Bool
  | .colorSizeDiffers | .depthSizeDiffers => true
  | _ => false

/-- A check whose fault, if it has one, is not about the size of an attachment. -/
private def Spares {Result : Type} (outcome : Except Fault Result) : Prop :=
  ∀ cause, outcome = .error (.pipeline cause) → ofSize cause = false

variable {pipeline : Pipeline} {buffers : Store Buffer}

private theorem spares_ok {Result : Type} (result : Result) : Spares (.ok result) := nofun

private theorem spares_of_ok {outcome : Except Fault Unit} (done : outcome = .ok ⟨⟩) :
    Spares outcome :=
  done ▸ spares_ok _

private theorem spares_error {Result : Type} {cause : PipelineCause}
    (other : ofSize cause = false) :
    Spares (.error (.pipeline cause) : Except Fault Result) := by
  rintro _ ⟨⟩
  exact other

private theorem spares_bind {Result Next : Type} {first : Except Fault Result}
    {next : Result → Except Fault Next} (left : Spares first)
    (right : ∀ result, Spares (next result)) : Spares (first >>= next) := by
  intro cause failed
  cases first with
  | ok result => exact right result cause failed
  | error fault =>
    cases failed
    exact left cause rfl

private theorem spares_forM {Item : Type} {items : List Item} {check : Item → Except Fault Unit}
    (each : ∀ item, Spares (check item)) : Spares (items.forM check) := by
  induction items with
  | nil => exact spares_ok _
  | cons item rest ih => exact spares_bind (each item) fun _ => ih

private theorem spares_expect {holds : Bool} {cause : PipelineCause}
    (other : ofSize cause = false) :
    Spares (expect holds cause) := by
  cases holds with
  | false => exact spares_error other
  | true => exact spares_ok _

private theorem spares_requireBuffer (buffers : Store Buffer) (id : Id Buffer) :
    Spares (buffers.requireBuffer id) := by
  unfold Store.requireBuffer
  split
  · exact spares_ok _
  · exact spares_error rfl

private theorem spares_checkFormatOf (binding : BufferBinding) : Spares
    (checkFormatOf buffers binding) :=
  spares_bind (spares_requireBuffer buffers _) fun _ => spares_expect rfl

private theorem spares_checkMipLevels (attachment : BufferBinding) :
    Spares (checkMipLevels buffers attachment) := by
  refine spares_bind (spares_requireBuffer buffers _) fun buffer => ?_
  dsimp only
  split
  · refine spares_error ?_
    split <;> rfl
  · exact spares_ok _

private theorem spares_checkGraphics : Spares (pipeline.checkGraphics buffers) :=
  spares_bind (spares_expect rfl) fun _ => spares_bind (spares_expect rfl) fun _ =>
    spares_bind (spares_expect rfl) fun _ => spares_forM spares_checkMipLevels

private theorem spares_checkGroupSlot (group slot : String) (accepts : ShaderStage → Bool)
    (named : Option (Id Shader)) : Spares (pipeline.checkGroupSlot group slot accepts named) := by
  cases named with
  | none => exact spares_ok _
  | some shader =>
    unfold checkGroupSlot
    dsimp only
    split
    · exact spares_error rfl
    · exact spares_expect rfl

private theorem spares_checkGroup (group : ShaderGroup) : Spares (pipeline.checkGroup group) :=
  spares_bind (spares_expect rfl) fun _ => spares_bind (spares_expect rfl) fun _ =>
    spares_bind (spares_checkGroupSlot _ _ _ _) fun _ =>
      spares_bind (spares_checkGroupSlot _ _ _ _) fun _ =>
        spares_bind (spares_checkGroupSlot _ _ _ _) fun _ => spares_checkGroupSlot _ _ _ _

private theorem spares_checkRayTracing : Spares pipeline.checkRayTracing :=
  spares_bind (spares_expect rfl) fun _ => spares_bind (spares_expect rfl) fun _ =>
    spares_bind (spares_forM spares_checkGroup) fun _ =>
      spares_forM fun _ => spares_forM fun _ => spares_expect rfl

/-- Where all attachments have the sizes that a check asks for, it is not about those that it
fails. -/
private theorem spares_check
    (colors : ∀ attachment ∈ pipeline.colorAttachments,
      pipeline.Fits buffers attachment attachment.baseMipLevel)
    (depth : ∀ attachment ∈ pipeline.depthStencil, pipeline.Fits buffers attachment 0) :
    Spares (pipeline.check buffers) := by
  refine spares_bind (spares_of_ok (forM_ok_iff.mpr fun attachment member => ?_)) fun _ =>
    spares_bind (spares_of_ok (forM_ok_iff.mpr fun attachment member => ?_)) fun _ =>
      spares_bind (spares_forM spares_checkFormatOf) fun _ => ?_
  · exact checkExtent_ok_iff.mpr (colors attachment member)
  · exact checkExtent_ok_iff.mpr (depth attachment (Option.mem_toList.mp member))
  split
  · exact spares_checkGraphics
  · exact spares_expect rfl
  · exact spares_checkRayTracing

private theorem spares_validate (spares : Spares (pipeline.check buffers)) :
    Spares ((validate buffers).apply pipeline).1 := by
  by_cases opened : pipeline.validity = .invalid
  · rw [apply_validate_of_failed ⟨opened, rfl⟩]
    exact spares_error rfl
  · rw [apply_validate_of_open opened]
    cases checked : pipeline.check buffers with
    | ok verdict => exact spares_ok _
    | error fault =>
      rw [checked] at spares
      exact spares

end Pipeline

namespace Workbench

variable {bench after : Workbench}

theorem Resized.fits {entry : Id Buffer × Nat}
    (resized : Resized bench.pipeline.attachmentLevels bench after)
    (member : entry ∈ bench.pipeline.attachmentLevels) {attachment : BufferBinding}
    (same : attachment.buffer = entry.1)
    (small : InWords bench.pipeline.width bench.pipeline.height entry.2) :
    after.pipeline.Fits after.buffers attachment entry.2 := by
  obtain ⟨buffer, -, sized⟩ := resized.sized entry member
  rw [Pipeline.Fits, resized.pipeline, same]
  exact ⟨_, sized, small, rfl⟩

/-- Once all attachments have been sized, validation finds none of a wrong size. -/
private theorem Resized.spares (resized : Resized bench.pipeline.attachmentLevels bench after)
    (small : ∀ entry ∈ bench.pipeline.attachmentLevels,
      InWords bench.pipeline.width bench.pipeline.height entry.2) :
    Pipeline.Spares ((Pipeline.validate after.buffers).apply after.pipeline).1 := by
  refine Pipeline.spares_validate (Pipeline.spares_check ?_ ?_)
  · intro attachment member
    rw [resized.pipeline] at member
    have entry : (attachment.buffer, attachment.baseMipLevel) ∈ bench.pipeline.attachmentLevels :=
      List.mem_append_left _ (List.mem_map.mpr ⟨attachment, member, rfl⟩)
    exact resized.fits entry rfl (small _ entry)
  · intro depth found
    rw [resized.pipeline] at found
    have entry : (depth.buffer, 0) ∈ bench.pipeline.attachmentLevels :=
      List.mem_append_right _ (List.mem_map.mpr ⟨depth, Option.mem_toList.mpr found, rfl⟩)
    exact resized.fits entry rfl (small _ entry)

/-- The attachments of a pipeline have different buffers if the depth attachment has one of its
own. -/
private theorem attached_of_reachable (reachable : bench.pipeline.Reachable)
    (colors : ∀ attachment ∈ bench.pipeline.colorAttachments, bench.Has attachment.buffer)
    (deep : ∀ depth ∈ bench.pipeline.depthStencil, bench.Has depth.buffer ∧
      depth.buffer ∉ bench.pipeline.colorAttachments.map (·.buffer)) : bench.Attached := by
  constructor
  · refine List.forall_mem_append.mpr ⟨List.forall_mem_map.mpr colors, List.forall_mem_map.mpr ?_⟩
    exact fun depth found => (deep depth (Option.mem_toList.mp found)).1
  · rw [Pipeline.attachmentLevels, List.map_append, List.map_map, List.map_map, List.nodup_append]
    refine ⟨reachable.wellFormed.colorBuffers, ?_, ?_⟩
    · cases bench.pipeline.depthStencil <;> simp
    · rintro id member _ below rfl
      obtain ⟨depth, found, rfl⟩ := List.mem_map.mp below
      exact (deep depth (Option.mem_toList.mp found)).2 member

/-- An empty framebuffer leaves the attachments alone. One with texels sizes each attachment at its
mip level, and no other buffer, unless the number of its texels or a number of an attachment is past
a word; validation then finds no attachment of a wrong size. -/
theorem fitAttachments_agrees (width height : Nat) (reachable : bench.pipeline.Reachable)
    (wide : width < wordLimit) (high : height < wordLimit)
    (colors : ∀ attachment ∈ bench.pipeline.colorAttachments, bench.Has attachment.buffer)
    (deep : ∀ depth ∈ bench.pipeline.depthStencil, bench.Has depth.buffer ∧
      depth.buffer ∉ bench.pipeline.colorAttachments.map (·.buffer)) :
    let sized : Workbench := { bench with
      pipeline := (Pipeline.Change.setFramebufferSize width height).apply bench.pipeline }
    let outcome := fitAttachments.apply sized
    (width * height = 0 → outcome = (.ok ⟨⟩, sized)) ∧
      (0 < width * height →
        ((∃ fault, outcome.1 = .error fault) ↔
          wordLimit ≤ width * height ∨ ∃ attachment ∈ bench.pipeline.colorAttachments,
            let level := attachment.baseMipLevel
            wordLimit ≤ width * 2 ^ level ∨ wordLimit ≤ height * 2 ^ level ∨
              wordLimit ≤ width * 2 ^ level * (height * 2 ^ level)) ∧
        (outcome.1 = .ok ⟨⟩ →
          (∀ entry ∈ bench.pipeline.attachmentLevels, InWords width height entry.2) ∧
          Resized bench.pipeline.attachmentLevels sized outcome.2 ∧
          ∀ cause, ((Pipeline.validate outcome.2.buffers).apply outcome.2.pipeline).1 =
              .error (.pipeline cause) →
            cause ≠ .colorSizeDiffers ∧ cause ≠ .depthSizeDiffers)) := by
  intro sized outcome
  have attached : sized.Attached := by
    obtain ⟨stored, distinct⟩ := attached_of_reachable reachable colors deep
    exact ⟨stored, distinct⟩
  have unsized : width * height = 0 → outcome = (.ok ⟨⟩, sized) :=
    @apply_fitAttachments_empty sized wide high
  refine ⟨unsized, fun texels => ?_⟩
  have verdict : outcome.1 = .ok ⟨⟩ ↔ InWords width height 0 ∧
      ∀ attachment ∈ bench.pipeline.colorAttachments,
        InWords width height attachment.baseMipLevel :=
    Edit.succeeds_iff.symm.trans (succeeds_fitAttachments_iff attached texels)
  constructor
  · have either : (∃ fault, outcome.1 = .error fault) ↔ ¬outcome.1 = .ok ⟨⟩ := by
      cases outcome.1 <;> simp
    rw [either, verdict, Classical.not_and_iff_not_or_not, inWords_zero_iff wide high, Nat.not_lt]
    simp only [Classical.not_forall, not_inWords_iff texels, exists_prop]
  · intro done
    obtain ⟨small, colored⟩ := verdict.mp done
    have words : ∀ entry ∈ sized.pipeline.attachmentLevels, InWords width height entry.2 := by
      refine List.forall_mem_append.mpr ⟨List.forall_mem_map.mpr colored, ?_⟩
      exact List.forall_mem_map.mpr fun _ _ => small
    have resized : Resized sized.pipeline.attachmentLevels sized outcome.2 :=
      resized_of_fitAttachments attached texels (Prod.ext done rfl)
    refine ⟨words, resized, fun cause failed => ?_⟩
    have other := resized.spares words cause failed
    constructor <;> rintro rfl <;> cases other

/-- A framebuffer of three by two with an attachment at level one, another at level zero and one of
depth. -/
theorem fitAttachments_agrees_mixed :
    let buffers : Store Buffer := ⟨#[{ name := "far" }, { name := "near" }, { name := "deep" }]⟩
    let operations : List Operation :=
      [.addColorAttachment ⟨0⟩ 0 1, .addColorAttachment ⟨1⟩ 1 0, .setDepthStencil ⟨2⟩]
    let start : Workbench := { pipeline := { name := "draw", kind := .graphics }, buffers }
    let bench := start.perform operations
    let sized : Workbench := { bench with
      pipeline := (Pipeline.Change.setFramebufferSize 3 2).apply bench.pipeline }
    let outcome := fitAttachments.apply sized
    outcome.1 = .ok ⟨⟩ ∧ Resized bench.pipeline.attachmentLevels sized outcome.2 ∧
      outcome.2.buffers.toList.map
          (fun buffer => (buffer.width, buffer.height, buffer.elementCount)) =
        [(6, 4, 24), (3, 2, 6), (3, 2, 6)] := by
  intro buffers operations start bench sized outcome
  have settled : ∀ operation ∈ operations, operation.Sealed := by
    simp [operations, Operation.Sealed]
  have reachable : bench.pipeline.Reachable := .perform (.new "draw" .graphics) settled
  have colors : ∀ attachment ∈ bench.pipeline.colorAttachments,
      attachment.buffer.index < bench.buffers.size := by decide +kernel
  have deep : ∀ depth ∈ bench.pipeline.depthStencil, depth.buffer.index < bench.buffers.size ∧
      depth.buffer ∉ bench.pipeline.colorAttachments.map (·.buffer) := by decide +kernel
  obtain ⟨-, texels⟩ := fitAttachments_agrees 3 2 reachable (by decide) (by decide)
    (fun attachment member => Store.exists_get?_of_lt (colors attachment member))
    fun depth found => (deep depth found).imp_left Store.exists_get?_of_lt
  obtain ⟨refused, fitted⟩ := texels (by decide)
  have done : outcome.1 = .ok ⟨⟩ := by
    cases verdict : outcome.1 with
    | ok result => rfl
    | error fault => exact absurd (refused.mp ⟨fault, verdict⟩) (by decide +kernel)
  exact ⟨done, (fitted done).2.1, by decide +kernel⟩

end Workbench

end GpuScript
