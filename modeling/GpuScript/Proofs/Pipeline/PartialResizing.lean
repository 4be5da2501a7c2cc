import GpuScript.Proofs.Pipeline.Resizing
import Mathlib.Control.Monad.Basic

/-! Sizing the attachments of a pipeline where it fails. They are sized one after the other, and
what stands before the one that cannot be sized keeps its new size. -/
namespace GpuScript

instance (width height mipLevel : Nat) : Decidable (InWords width height mipLevel) :=
  decidable_of_iff
    (mipLevel < 32 ∧ width * 2 ^ mipLevel < wordLimit ∧ height * 2 ^ mipLevel < wordLimit ∧
      width * 2 ^ mipLevel * (height * 2 ^ mipLevel) < wordLimit)
    ⟨fun ⟨level, wide, high, count⟩ => ⟨level, wide, high, count⟩,
      fun small => ⟨small.level, small.wide, small.high, small.count⟩⟩

/-- The extent of a framebuffer's image at a mip level. -/
def Extent.atLevel (width height mipLevel : Nat) : Extent :=
  ⟨width * 2 ^ mipLevel, height * 2 ^ mipLevel, width * 2 ^ mipLevel * (height * 2 ^ mipLevel)⟩

def Buffer.extent (buffer : Buffer) : Extent := ⟨buffer.width, buffer.height, buffer.elementCount⟩

namespace Workbench

variable {bench before after : Workbench} {levels : List (Id Buffer × Nat)}

instance (bench : Workbench) (id : Id Buffer) : Decidable (bench.Has id) :=
  decidable_of_iff ((bench.buffers.get? id).isSome = true) Option.isSome_iff_exists

theorem Resized.has_iff (resized : Resized levels before after) {id : Id Buffer} :
    after.Has id ↔ before.Has id := by
  refine ⟨?_, resized.has⟩
  rintro ⟨buffer, found⟩
  by_cases member : id ∈ levels.map Prod.fst
  · obtain ⟨entry, listed, rfl⟩ := List.mem_map.mp member
    obtain ⟨buffer, stored, -⟩ := resized.sized entry listed
    exact ⟨buffer, stored⟩
  · exact ⟨buffer, (resized.others id member).symm.trans found⟩

/-- All buffers have the extents they had exactly if those that were sized had these sizes. -/
theorem Resized.sameExtents_iff (resized : Resized levels before after) :
    (∀ id, (after.buffers.get? id).map Buffer.extent =
        (before.buffers.get? id).map Buffer.extent) ↔
      ∀ entry ∈ levels, ∀ buffer ∈ before.buffers.get? entry.1,
        buffer.extent = .atLevel before.pipeline.width before.pipeline.height entry.2 := by
  constructor
  · intro same entry member buffer found
    obtain ⟨_, stored, sized⟩ := resized.sized entry member
    cases stored.symm.trans found
    have extents := same entry.1
    rw [stored, sized] at extents
    exact (Option.some.inj extents).symm
  · intro fitting id
    by_cases member : id ∈ levels.map Prod.fst
    · obtain ⟨entry, listed, rfl⟩ := List.mem_map.mp member
      obtain ⟨buffer, stored, sized⟩ := resized.sized entry listed
      rw [stored, sized, Option.map_some, Option.map_some, fitting entry listed buffer stored]
      rfl
    · rw [resized.others id member]

/-- An attachment can be sized: its extent is in words, and it has a buffer. -/
def Sizes (bench : Workbench) (attachment : BufferBinding) : Prop :=
  InWords bench.pipeline.width bench.pipeline.height attachment.baseMipLevel ∧
    bench.Has attachment.buffer

instance (bench : Workbench) (attachment : BufferBinding) : Decidable (bench.Sizes attachment) :=
  inferInstanceAs (Decidable (_ ∧ _))

theorem Resized.sizes_iff (resized : Resized levels before after) (attachment : BufferBinding) :
    after.Sizes attachment ↔ before.Sizes attachment := by
  rw [Sizes, Sizes, resized.pipeline, resized.has_iff]

/-- The attachments before the first one that cannot be sized. -/
def sizedAmong (bench : Workbench) (attachments : List BufferBinding) : List BufferBinding :=
  attachments.takeWhile fun attachment => bench.Sizes attachment

private theorem sizedAmong_cons_of_pos {attachment : BufferBinding} (sizes : bench.Sizes attachment)
    (rest : List BufferBinding) :
    bench.sizedAmong (attachment :: rest) = attachment :: bench.sizedAmong rest :=
  List.takeWhile_cons_of_pos (decide_eq_true sizes)

theorem sizedAmong_cons_of_neg {attachment : BufferBinding} (unsized : ¬bench.Sizes attachment)
    (rest : List BufferBinding) : bench.sizedAmong (attachment :: rest) = [] :=
  List.takeWhile_cons_of_neg fun sizes => unsized (of_decide_eq_true sizes)

def levelOf (attachment : BufferBinding) : Id Buffer × Nat :=
  (attachment.buffer, attachment.baseMipLevel)

private theorem sizeBuffer_error {id : Id Buffer} {extent : Extent} {fault : Fault}
    (failed : (sizeBuffer id extent).apply bench = (.error fault, after)) : after = bench := by
  rw [sizeBuffer, apply_onBuffer] at failed
  cases found : bench.buffers.requireBuffer id with
  | error other =>
    rw [found] at failed
    exact (Prod.mk.inj failed).2.symm
  | ok buffer =>
    rw [found] at failed
    cases failed

private theorem fitToFramebuffer_error {id : Id Buffer} {mipLevel : Nat} {fault : Fault}
    (failed : (fitToFramebuffer id mipLevel).apply bench = (.error fault, after)) :
    after = bench ∧
      ¬(InWords bench.pipeline.width bench.pipeline.height mipLevel ∧ bench.Has id) := by
  have traced := leads_fitToFramebuffer bench id mipLevel bench rfl
  rw [failed] at traced
  refine ⟨traced, ?_⟩
  rintro ⟨small, buffer, found⟩
  cases failed.symm.trans (fitToFramebuffer_ok.mpr ⟨small, buffer, found, rfl⟩)

/-- Whether it fails or not, sizing goes as far as the attachments can be sized. -/
theorem resized_fitColorAttachments {attachments : List BufferBinding}
    (distinct : (attachments.map (·.buffer)).Nodup) :
    Resized ((bench.sizedAmong attachments).map levelOf) bench
      ((fitColorAttachments attachments).apply bench).2 := by
  induction attachments generalizing bench with
  | nil => exact .refl bench
  | cons attachment rest ih =>
    obtain ⟨alone, distinct⟩ := List.nodup_cons.mp distinct
    rw [fitColorAttachments, Edit.apply_bind]
    cases first : (fitToFramebuffer attachment.buffer attachment.baseMipLevel).apply bench with
    | mk outcome between =>
      cases outcome with
      | error fault =>
        obtain ⟨rfl, unsized⟩ := fitToFramebuffer_error first
        rw [sizedAmong_cons_of_neg unsized]
        exact .refl _
      | ok result =>
        obtain ⟨small, buffer, found, -⟩ := fitToFramebuffer_ok.mp first
        have resized := resized_of_fitToFramebuffer first
        have same : between.sizedAmong rest = bench.sizedAmong rest := by
          simp only [sizedAmong, resized.sizes_iff]
        rw [sizedAmong_cons_of_pos ⟨small, buffer, found⟩]
        refine resized.trans (same ▸ ih distinct) fun id here behind => alone ?_
        obtain rfl := List.mem_singleton.mp here
        rw [List.map_map] at behind
        exact ((List.takeWhile_sublist _).map _).subset behind

/-- The color attachments that get their sizes before sizing fails. A framebuffer that is itself too
large is refused before any of them. -/
def sizedFirst (bench : Workbench) : List BufferBinding :=
  if InWords bench.pipeline.width bench.pipeline.height 0 then
    bench.sizedAmong bench.pipeline.colorAttachments
  else []

theorem resized_of_fitAttachments_error {fault : Fault}
    (distinct : (bench.pipeline.colorAttachments.map (·.buffer)).Nodup)
    (failed : fitAttachments.apply bench = (.error fault, after)) :
    Resized (bench.sizedFirst.map levelOf) bench after := by
  unfold fitAttachments at failed
  rw [Edit.apply_bind_of_ok (Edit.apply_get bench)] at failed
  unfold sizedFirst
  rcases Edit.bind_ofExcept_error failed with ⟨refused, rfl⟩ | ⟨extent, measured, failed⟩
  · have large : ¬InWords after.pipeline.width after.pipeline.height 0 := fun small => by
      cases refused.symm.trans (attachmentExtent_of_inWords small)
    rw [if_neg large]
    exact .refl after
  · rw [if_pos (inWords_of_attachmentExtent measured)]
    have colored := @resized_fitColorAttachments bench _ distinct
    split at failed
    · cases failed
    · rw [Edit.apply_bind] at failed
      cases ran : (fitColorAttachments bench.pipeline.colorAttachments).apply bench with
      | mk outcome between =>
        rw [ran] at failed colored
        cases outcome with
        | error _ =>
          cases failed
          exact colored
        | ok _ =>
          cases deep : bench.pipeline.depthStencil with
          | none =>
            rw [deep] at failed
            cases failed
          | some depth =>
            rw [deep] at failed
            exact sizeBuffer_error failed ▸ colored

/-- Where sizing the attachments fails, those before the first one that cannot be sized have been
sized all the same, and all else is as it was. So every buffer has the dimensions and the count that
it had exactly if these attachments already were of the framebuffer's size. -/
theorem fitAttachments_failed_iff {fault : Fault} (reachable : bench.pipeline.Reachable)
    (failed : fitAttachments.apply bench = (.error fault, after)) :
    Resized (bench.sizedFirst.map levelOf) bench after ∧
      ((∀ id, (after.buffers.get? id).map Buffer.extent =
          (bench.buffers.get? id).map Buffer.extent) ↔
        ∀ attachment ∈ bench.sizedFirst, ∀ buffer ∈ bench.buffers.get? attachment.buffer,
          buffer.extent = .atLevel bench.pipeline.width bench.pipeline.height
            attachment.baseMipLevel) := by
  have resized := resized_of_fitAttachments_error reachable.wellFormed.colorBuffers failed
  refine ⟨resized, ?_⟩
  rw [resized.sameExtents_iff, List.forall_mem_map]
  rfl

/-- The attachment at the base level has been sized to the framebuffer before; the one at level
eight becomes too large. -/
theorem fitAttachments_failed_iff_sized :
    let near : Buffer := { name := "near" }
    let far : Buffer := { name := "far" }
    let operations : List Operation :=
      [.addColorAttachment ⟨0⟩ 0 0, .addColorAttachment ⟨1⟩ 1 8,
        .change (.setFramebufferSize 300 250),
        .replaceStores ⟨#[near.atLevel 300 250 0, far.atLevel 250 250 8]⟩ {}]
    let start : Workbench :=
      { pipeline := { name := "draw", kind := .graphics }, buffers := ⟨#[near, far]⟩ }
    let bench := start.perform operations
    let outcome := fitAttachments.apply bench
    outcome.1 = .error (.pipeline (.framebufferTooLarge 300 250 8)) ∧
      bench.sizedFirst.map levelOf = [(⟨0⟩, 0)] ∧
      ∀ id, (outcome.2.buffers.get? id).map Buffer.extent =
        (bench.buffers.get? id).map Buffer.extent := by
  intro near far operations start bench outcome
  have settled : ∀ operation ∈ operations, operation.Sealed := by
    simp [operations, Operation.Sealed]
  have reachable : bench.pipeline.Reachable := .perform (.new "draw" .graphics) settled
  have refused : outcome.1 = .error (.pipeline (.framebufferTooLarge 300 250 8)) := by
    decide +kernel
  have first : bench.sizedFirst = [{ buffer := ⟨0⟩, kind := .color }] := by decide +kernel
  have failed := (Prod.eta outcome).symm
  rw [refused] at failed
  obtain ⟨-, same⟩ := fitAttachments_failed_iff reachable failed
  refine ⟨refused, first ▸ rfl, same.mpr ?_⟩
  intro attachment member buffer found
  rw [first] at member
  obtain rfl := List.mem_singleton.mp member
  have stored : bench.buffers.get? ⟨0⟩ = some (near.atLevel 300 250 0) := rfl
  cases stored.symm.trans found
  rfl

/-- The attachment at the base level is sized before the one at level eight turns out to be too
large. -/
theorem fitAttachments_failed_sized :
    let operations : List Operation :=
      [.addColorAttachment ⟨0⟩ 0 0, .addColorAttachment ⟨1⟩ 1 8,
        .change (.setFramebufferSize 300 250)]
    let start : Workbench :=
      { pipeline := { name := "draw", kind := .graphics }
        buffers := ⟨#[{ name := "near" }, { name := "far" }]⟩ }
    let bench := start.perform operations
    let outcome := fitAttachments.apply bench
    bench.pipeline.Reachable ∧
      outcome.1 = .error (.pipeline (.framebufferTooLarge 300 250 8)) ∧
      (bench.buffers.get? ⟨0⟩).map Buffer.extent = some ⟨250, 250, 62500⟩ ∧
      (outcome.2.buffers.get? ⟨0⟩).map Buffer.extent = some ⟨300, 250, 75000⟩ := by
  intro operations start bench outcome
  have settled : ∀ operation ∈ operations, operation.Sealed := by
    simp [operations, Operation.Sealed]
  exact ⟨.perform (.new "draw" .graphics) settled, by decide +kernel⟩

end Workbench

end GpuScript
