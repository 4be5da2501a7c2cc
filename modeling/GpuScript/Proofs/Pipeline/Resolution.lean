import GpuScript.Proofs.Pipeline.Placing

/-! What a binding to a kernel argument resolves to. A binding is given a name or a number, and the
other one stands for no argument; placing looks at both all the same, so an entry without a name is
also one of a binding by number. -/
namespace GpuScript

/-- The kinds of buffers that serve an argument of a kind. -/
inductive BufferKind.Serves : BufferKind → ArgumentKind → Prop where
  | uniform : Serves .uniform .ubo
  | plainUniform : Serves .uniform .podUbo
  | storage : Serves .storage .ssbo
  | plainStorage : Serves .storage .pod
  | sampledImage : Serves .sampledImage .roImage
  | storageImage : Serves .storageImage .woImage

theorem BufferKind.serves_of_ofArgument? {kind : BufferKind} {argument : ArgumentKind}
    (given : ofArgument? argument = some kind) : kind.Serves argument := by
  cases argument <;> cases given <;> constructor

theorem lastSlot_concat (entries : List ArgumentEntry) (last : ArgumentEntry)
    (slot : BindingSlot) : lastSlot (entries ++ [last]) slot = last.slot := by
  rw [lastSlot, List.getLast?_concat]
  rfl

theorem lastSlot_eq_or_mem (entries : List ArgumentEntry) (slot : BindingSlot) :
    entries = [] ∧ lastSlot entries slot = slot ∨
      ∃ entry ∈ entries, lastSlot entries slot = entry.slot := by
  rcases List.eq_nil_or_concat entries with rfl | ⟨earlier, last, rfl⟩
  · exact .inl ⟨rfl, rfl⟩
  · rw [List.concat_eq_append]
    exact .inr ⟨last, by simp, lastSlot_concat earlier last slot⟩

private theorem filter_entriesOf {picks : ArgumentEntry → Bool} {name : String} {number : Nat}
    (own : ∀ entry, picks entry → entry.isOf name number) (entries : List ArgumentEntry) :
    (entriesOf entries name number).filter picks = entries.filter picks := by
  rw [entriesOf, List.filter_filter]
  refine List.filter_congr fun entry _ => ?_
  cases picked : picks entry with
  | true => exact own entry picked
  | false => rfl

/-- Entries of distinct slots, all of which are places. -/
structure SlotsApart (entries : List ArgumentEntry) : Prop where
  distinct : (entries.map (·.slot)).Nodup
  slotted : ∀ entry ∈ entries, entry.slot ≠ .unbound

theorem SlotsApart.filter {entries : List ArgumentEntry} (apart : SlotsApart entries)
    (picks : ArgumentEntry → Bool) : SlotsApart (entries.filter picks) where
  distinct := apart.distinct.sublist (List.filter_sublist.map _)
  slotted entry member := apart.slotted entry (List.mem_of_mem_filter member)

/-- Among entries of distinct slots the last picked one is the last one exactly when that is
picked. -/
theorem SlotsApart.lastSlot_filter {entries : List ArgumentEntry} (apart : SlotsApart entries)
    (picks : ArgumentEntry → Bool) :
    lastSlot entries .unbound = lastSlot (entries.filter picks) .unbound ↔
      ∀ last ∈ entries.getLast?, picks last := by
  rcases List.eq_nil_or_concat entries with rfl | ⟨earlier, last, rfl⟩
  · exact iff_of_true rfl nofun
  rw [List.concat_eq_append] at apart ⊢
  rw [lastSlot_concat, List.getLast?_concat, List.filter_append]
  by_cases picked : picks last = true
  · rw [List.filter_cons_of_pos picked, List.filter_nil, lastSlot_concat]
    exact iff_of_true rfl fun _ found => Option.some.inj found ▸ picked
  · rw [List.filter_cons_of_neg picked, List.filter_nil, List.append_nil]
    refine iff_of_false (fun same => ?_) fun all => picked (all last rfl)
    rcases lastSlot_eq_or_mem (earlier.filter picks) .unbound with ⟨-, kept⟩ | ⟨entry, member, slot⟩
    · exact apart.slotted last (by simp) (same.trans kept)
    · have distinct := apart.distinct
      rw [List.map_append, List.nodup_append] at distinct
      refine distinct.2.2 entry.slot ?_ last.slot (by simp) (slot.symm.trans same.symm)
      exact List.mem_map_of_mem (List.mem_of_mem_filter member)

/-- What becomes of the slot of a binding to an argument. A slot that it has is kept. Else it takes
the slot of the last entry of its name, or none where there is no such entry, exactly when the last
entry that has its name or its number has the name; and the same goes for the number. -/
structure SlotResolved (entries : List ArgumentEntry) (name : String) (number : Nat)
    (slot placed : BindingSlot) : Prop where
  kept : slot ≠ .unbound → placed = slot
  named : slot = .unbound →
    (placed = lastSlot (entries.filter (·.name == name)) .unbound ↔
      ∀ last ∈ (entriesOf entries name number).getLast?, last.name = name)
  numbered : slot = .unbound →
    (placed = lastSlot (entries.filter (·.ordinal == number)) .unbound ↔
      ∀ last ∈ (entriesOf entries name number).getLast?, last.ordinal = number)

theorem slotResolved_of_kept {entries : List ArgumentEntry} {name : String} {number : Nat}
    {slot : BindingSlot} (bound : slot ≠ .unbound) :
    SlotResolved entries name number slot slot where
  kept _ := rfl
  named unbound := absurd unbound bound
  numbered unbound := absurd unbound bound

theorem SlotsApart.slotResolved {entries : List ArgumentEntry} (apart : SlotsApart entries)
    (name : String) (number : Nat) :
    SlotResolved entries name number .unbound
      (lastSlot (entriesOf entries name number) .unbound) := by
  have own : SlotsApart (entriesOf entries name number) := apart.filter _
  have named (entry : ArgumentEntry) (same : entry.name == name) : entry.isOf name number := by
    simp [ArgumentEntry.isOf, same]
  have numbered (entry : ArgumentEntry) (same : entry.ordinal == number) :
      entry.isOf name number := by
    simp [ArgumentEntry.isOf, same]
  refine ⟨fun bound => absurd rfl bound, fun _ => ?_, fun _ => ?_⟩
  · rw [← filter_entriesOf named, own.lastSlot_filter]
    simp
  · rw [← filter_entriesOf numbered, own.lastSlot_filter]
    simp

/-- What becomes of a sampler's binding: nothing but its slot is touched. -/
structure SamplerBinding.Resolved (entries : List ArgumentEntry)
    (binding placed : SamplerBinding) : Prop where
  slot : SlotResolved entries binding.argumentName binding.argumentNumber binding.slot placed.slot
  frame : placed = { binding with slot := placed.slot }

theorem SamplerBinding.resolved_of_resolve {entries : List ArgumentEntry}
    (apart : SlotsApart entries) {binding placed : SamplerBinding}
    (resolved : (resolve entries binding).apply binding = (.ok ⟨⟩, placed)) :
    Resolved entries binding placed := by
  unfold resolve at resolved
  by_cases unbound : binding.slot = .unbound
  · rw [if_pos (BindingSlot.isUnbound_iff.mpr unbound)] at resolved
    obtain ⟨-, rfl⟩ := placeAll_ok.mp resolved
    refine ⟨?_, rfl⟩
    rw [unbound]
    exact apart.slotResolved _ _
  · rw [if_neg (BindingSlot.isUnbound_iff.not.mpr unbound)] at resolved
    cases resolved
    exact ⟨slotResolved_of_kept unbound, rfl⟩

/-- What becomes of a buffer's binding: with its slot it gets the kind that serves the entry there,
and without one it stays as it is. -/
structure BufferBinding.Resolved (entries : List ArgumentEntry)
    (binding placed : BufferBinding) : Prop where
  slot : SlotResolved entries binding.argumentName binding.argumentNumber binding.slot placed.slot
  frame : placed = { binding with kind := placed.kind, slot := placed.slot }
  unplaced : placed.slot = binding.slot → placed = binding
  serves : placed.slot ≠ binding.slot →
    ∃ entry ∈ entries, entry.isOf binding.argumentName binding.argumentNumber ∧
      entry.slot = placed.slot ∧ placed.kind.Serves entry.kind

theorem BufferBinding.resolved_of_resolve {buffers : Store Buffer} {entries : List ArgumentEntry}
    (apart : SlotsApart entries) {binding placed : BufferBinding}
    (resolved : (resolve buffers entries binding).apply binding = (.ok ⟨⟩, placed)) :
    Resolved entries binding placed := by
  unfold resolve at resolved
  by_cases unbound : binding.slot = .unbound
  · rw [if_pos (BindingSlot.isUnbound_iff.mpr unbound)] at resolved
    obtain ⟨kinds, kind, same⟩ := placeAll_ok.mp resolved
    have slot : placed.slot = lastSlot (binding.ownEntries entries) .unbound := by
      rw [same, unbound]
    have own := apart.filter (·.isOf binding.argumentName binding.argumentNumber)
    refine ⟨?_, ?_, fun stays => ?_, fun moved => ?_⟩
    · rw [slot, unbound]
      exact apart.slotResolved _ _
    · rw [same]
    · rcases lastSlot_eq_or_mem (binding.ownEntries entries) .unbound with
        ⟨none, -⟩ | ⟨entry, member, last⟩
      · have kept : binding.kind = placed.kind := kind.resolve_right fun some => some.2 none
        rw [same, none, ← kept]
        rfl
      · exact absurd (last.symm.trans (slot.symm.trans (stays.trans unbound)))
          (own.slotted entry member)
    · rcases lastSlot_eq_or_mem (binding.ownEntries entries) .unbound with
        ⟨-, kept⟩ | ⟨entry, member, last⟩
      · exact absurd (slot.trans (kept.trans unbound.symm)) moved
      · obtain ⟨present, isOf⟩ := List.mem_filter.mp member
        exact ⟨entry, present, isOf, last.symm.trans slot.symm,
          BufferKind.serves_of_ofArgument? (kinds entry member)⟩
  · rw [if_neg (BindingSlot.isUnbound_iff.not.mpr unbound)] at resolved
    cases resolved
    exact ⟨slotResolved_of_kept unbound, rfl, fun _ => rfl, fun moved => absurd rfl moved⟩

namespace Pipeline

/-- Placing again what has been placed changes nothing, whatever the buffers are by then. -/
theorem placeArguments_again {buffers : Store Buffer} {pipeline placed : Pipeline}
    (done : (placeArguments buffers).apply pipeline = (.ok ⟨⟩, placed)) (later : Store Buffer) :
    (placeArguments later).apply placed = (.ok ⟨⟩, placed) := by
  obtain ⟨samplers, bindings, rfl, sampled, bound⟩ := placeArguments_ok.mp done
  refine placeArguments_ok.mpr ⟨samplers, bindings, rfl, ?_, ?_⟩
  · refine List.forall₂_same.mpr fun placed member => ?_
    obtain ⟨binding, -, resolved⟩ := exists_of_forall₂ sampled member
    exact SamplerBinding.resolve_again resolved placed.sampler
  · refine List.forall₂_same.mpr fun placed member => ?_
    obtain ⟨binding, -, resolved⟩ := exists_of_forall₂ bound member
    exact BufferBinding.resolve_again resolved later

/-- Placing the arguments of a kernel whose entries have distinct slots resolves each binding, and
touches nothing else of the pipeline; once placed, all stays as it is. -/
theorem placeArguments_resolved {buffers : Store Buffer} {pipeline placed : Pipeline}
    {entries : List ArgumentEntry} (kernel : pipeline.kernelArguments? = some entries)
    (apart : SlotsApart entries)
    (done : (placeArguments buffers).apply pipeline = (.ok ⟨⟩, placed)) :
    List.Forall₂ (SamplerBinding.Resolved entries) pipeline.samplers placed.samplers ∧
      List.Forall₂ (BufferBinding.Resolved entries) pipeline.buffers placed.buffers ∧
      placed = { pipeline with samplers := placed.samplers, buffers := placed.buffers } ∧
      ∀ later, (placeArguments later).apply placed = (.ok ⟨⟩, placed) := by
  have again := placeArguments_again done
  obtain ⟨samplers, bindings, rfl, sampled, bound⟩ := placeArguments_ok.mp done
  rw [argumentEntries, kernel, Option.getD_some] at sampled bound
  refine ⟨sampled.imp fun _ _ => ?_, bound.imp fun _ _ => ?_, rfl, again⟩
  · exact SamplerBinding.resolved_of_resolve apart
  · exact BufferBinding.resolved_of_resolve apart

/-- Of an argument with a name and one with a number each gets its buffer, the one of no kind also
its kind, and the sampler its place; what stands at a slot stays there. -/
theorem placeArguments_resolved_mixed :
    let entries : List ArgumentEntry :=
      [{ name := "in", kind := .ubo, slot := ⟨0, 0⟩, ordinal := 0 },
        { name := "out", kind := .ssbo, slot := ⟨0, 1⟩, ordinal := 1 },
        { name := "out", kind := .ssbo, slot := ⟨0, 2⟩, ordinal := 2 },
        { name := "smooth", kind := .sampler, slot := ⟨0, 3⟩, ordinal := 3 }]
    let kernel : AttachedShader :=
      { AttachedShader.fresh ⟨0⟩ { name := "copy", stage := .compute, format := .openClC } .compute
        with argumentMap := [("main", entries)] }
    let bound : List BufferBinding :=
      [{ buffer := ⟨0⟩, kind := .storage, slot := .unbound, argumentName := "out" },
        { buffer := ⟨1⟩, kind := .unknown, slot := .unbound, argumentNumber := 0 },
        { buffer := ⟨2⟩, kind := .uniform, slot := ⟨1, 0⟩, argumentNumber := 1 }]
    let pipeline : Pipeline :=
      { name := "work", kind := .compute, shaders := [kernel], buffers := bound
        samplers := [{ sampler := some ⟨0⟩, argumentName := "smooth" }] }
    let placed := ((placeArguments {}).apply pipeline).2
    pipeline.kernelArguments? = some entries ∧ SlotsApart entries ∧
      (placeArguments {}).apply pipeline = (.ok ⟨⟩, placed) ∧
      placed.samplers.map (·.slot) = [⟨0, 3⟩] ∧
      placed.buffers.map (fun binding => (binding.kind, binding.slot)) =
        [(.storage, ⟨0, 2⟩), (.uniform, ⟨0, 0⟩), (.uniform, ⟨1, 0⟩)] ∧
      List.Forall₂ (SamplerBinding.Resolved entries) pipeline.samplers placed.samplers ∧
      List.Forall₂ (BufferBinding.Resolved entries) bound placed.buffers ∧
      (placeArguments {}).apply placed = (.ok ⟨⟩, placed) := by
  intro entries kernel bound pipeline placed
  have known : pipeline.kernelArguments? = some entries := by decide
  have apart : SlotsApart entries := ⟨by decide, by decide⟩
  have done : (placeArguments {}).apply pipeline = (.ok ⟨⟩, placed) := Prod.ext rfl rfl
  obtain ⟨sampled, resolved, -, again⟩ := placeArguments_resolved known apart done
  exact ⟨known, apart, done, by decide, by decide, sampled, resolved, again {}⟩

/-- A buffer that is bound to the argument of a number gets the slot of another one where the
entries have no names. -/
theorem placeArguments_nameless :
    let entries : List ArgumentEntry :=
      [{ kind := .ssbo, slot := ⟨0, 0⟩, ordinal := 0 },
        { kind := .ssbo, slot := ⟨0, 1⟩, ordinal := 1 }]
    let kernel : AttachedShader :=
      { AttachedShader.fresh ⟨0⟩ { name := "copy", stage := .compute, format := .openClC } .compute
        with argumentMap := [("main", entries)] }
    let pipeline : Pipeline := { name := "work", kind := .compute, shaders := [kernel] }
    let bound := pipeline.bindBufferByNumber ⟨0⟩ .storage 0
    let placed := (placeArguments {}).apply bound
    bound.kernelArguments? = some entries ∧ SlotsApart entries ∧ placed.1 = .ok ⟨⟩ ∧
      placed.2.buffers.map (·.slot) = [⟨0, 1⟩] ∧
      lastSlot (entries.filter (·.ordinal == 0)) .unbound = ⟨0, 0⟩ := by
  intro entries kernel pipeline bound placed
  exact ⟨by decide, ⟨by decide, by decide⟩, rfl, by decide, by decide⟩

end Pipeline

end GpuScript
