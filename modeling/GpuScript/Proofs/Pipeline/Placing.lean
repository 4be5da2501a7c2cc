import GpuScript.Proofs.Pipeline.Arguments
import Mathlib.Data.List.Forall2

/-! Giving bindings to kernel arguments their slots. A binding gets the slot of the last entry of
its argument, and all entries of the argument have to be of its kind; a binding that has been placed
stays where it is when it is placed again. -/
namespace GpuScript

def entriesOf (entries : List ArgumentEntry) (name : String) (number : Nat) : List ArgumentEntry :=
  entries.filter (·.isOf name number)

theorem entriesOf_cons (entry : ArgumentEntry) (entries : List ArgumentEntry) (name : String)
    (number : Nat) :
    entriesOf (entry :: entries) name number =
      if entry.isOf name number then entry :: entriesOf entries name number
      else entriesOf entries name number :=
  List.filter_cons

/-- The slot of the last of some entries, or else one that is kept. -/
def lastSlot (entries : List ArgumentEntry) (slot : BindingSlot) : BindingSlot :=
  (entries.getLast?.map ArgumentEntry.slot).getD slot

theorem lastSlot_cons (entry : ArgumentEntry) (entries : List ArgumentEntry) (slot : BindingSlot) :
    lastSlot (entry :: entries) slot = lastSlot entries entry.slot := by
  unfold lastSlot
  rw [List.getLast?_cons]
  cases entries.getLast? <;> rfl

/-- The last slot is the kept one where that is the slot of the last entry. -/
theorem lastSlot_lastSlot (entries : List ArgumentEntry) (slot : BindingSlot) :
    lastSlot entries (lastSlot entries slot) = lastSlot entries slot := by
  unfold lastSlot
  cases entries.getLast? <;> rfl

theorem BindingSlot.isUnbound_iff {slot : BindingSlot} : slot.isUnbound ↔ slot = .unbound :=
  beq_iff_eq

namespace SamplerBinding

def ownEntries (binding : SamplerBinding) (entries : List ArgumentEntry) : List ArgumentEntry :=
  entriesOf entries binding.argumentName binding.argumentNumber

private theorem place_ok {entry : ArgumentEntry} {binding placed : SamplerBinding} :
    (place entry).apply binding = (.ok ⟨⟩, placed) ↔
      if entry.isOf binding.argumentName binding.argumentNumber then
        entry.kind = .sampler ∧ placed = { binding with slot := entry.slot }
      else placed = binding := by
  rw [place, Edit.apply_bind_of_ok (Edit.apply_get binding)]
  dsimp only
  by_cases own : entry.isOf binding.argumentName binding.argumentNumber = true
  · rw [if_pos own, if_pos own]
    by_cases sampler : entry.kind = .sampler
    · rw [if_neg (not_not_intro sampler)]
      exact ⟨fun done => ⟨sampler, (Prod.mk.inj done).2.symm⟩, fun ⟨_, same⟩ => same ▸ rfl⟩
    · rw [if_pos sampler]
      exact iff_of_false nofun fun placed => sampler placed.1
  · rw [if_neg own, if_neg own]
    exact ⟨fun done => (Prod.mk.inj done).2.symm, fun same => same ▸ rfl⟩

theorem placeAll_ok {entries : List ArgumentEntry} {binding placed : SamplerBinding} :
    (entries.forM place).apply binding = (.ok ⟨⟩, placed) ↔
      (∀ entry ∈ binding.ownEntries entries, entry.kind = .sampler) ∧
        placed = { binding with slot := lastSlot (binding.ownEntries entries) binding.slot } := by
  induction entries generalizing binding with
  | nil =>
    exact ⟨fun done => ⟨nofun, (Prod.mk.inj done).2.symm⟩, fun ⟨_, same⟩ => same ▸ rfl⟩
  | cons entry rest ih =>
    rw [Edit.forM_cons_ok]
    simp only [ih, place_ok]
    simp only [ownEntries, entriesOf_cons]
    by_cases own : entry.isOf binding.argumentName binding.argumentNumber = true
    · simp only [own, if_true]
      rw [lastSlot_cons, List.forall_mem_cons]
      constructor
      · rintro ⟨_, ⟨sampler, rfl⟩, later, same⟩
        exact ⟨⟨sampler, later⟩, same⟩
      · rintro ⟨⟨sampler, later⟩, same⟩
        exact ⟨_, ⟨sampler, rfl⟩, later, same⟩
    · simp only [own, Bool.false_eq_true, if_false]
      constructor
      · rintro ⟨_, rfl, later, same⟩
        exact ⟨later, same⟩
      · rintro ⟨later, same⟩
        exact ⟨_, rfl, later, same⟩

/-- A binding that has been placed stays where it is, also after it has got a sampler. -/
theorem resolve_again {entries : List ArgumentEntry} {binding placed : SamplerBinding}
    (resolved : (resolve entries binding).apply binding = (.ok ⟨⟩, placed))
    (sampler : Option (Id Sampler)) :
    (resolve entries { placed with sampler }).apply { placed with sampler } =
      (.ok ⟨⟩, { placed with sampler }) := by
  unfold resolve at resolved ⊢
  by_cases unbound : binding.slot.isUnbound = true
  · rw [if_pos unbound] at resolved
    obtain ⟨samplers, rfl⟩ := placeAll_ok.mp resolved
    split
    · refine placeAll_ok.mpr ⟨samplers, ?_⟩
      exact congrArg (SamplerBinding.mk sampler · _ _ _) (lastSlot_lastSlot _ _).symm
    · rfl
  · rw [if_neg unbound] at resolved
    cases resolved
    rw [if_neg unbound]
    rfl

end SamplerBinding

namespace BufferKind

theorem word_of_ofArgument? {argument : ArgumentKind} {kind : BufferKind}
    (given : ofArgument? argument = some kind) : ∃ word, kind.argumentWord? = some word := by
  cases argument <;> cases given <;> exact ⟨_, rfl⟩

theorem forArgument_ok {kind placed : BufferKind} {argument : ArgumentKind} {buffer : String} :
    kind.forArgument argument buffer = .ok placed ↔
      ofArgument? argument = some placed ∧ (kind = .unknown ∨ kind = placed) := by
  unfold forArgument
  by_cases unknown : kind = .unknown
  · rw [if_pos unknown]
    cases ofArgument? argument <;> simp [unknown]
  · rw [if_neg unknown]
    cases word : kind.argumentWord? with
    | none =>
      refine iff_of_false nofun fun ⟨given, same⟩ => ?_
      obtain ⟨_, present⟩ := word_of_ofArgument? (same.resolve_left unknown ▸ given)
      cases word.symm.trans present
    | some word =>
      dsimp only
      split
      · rename_i given
        constructor
        · rintro ⟨⟩
          exact ⟨given, .inr rfl⟩
        · rintro ⟨-, same⟩
          rw [same.resolve_left unknown]
      · rename_i other
        refine iff_of_false nofun fun ⟨given, same⟩ => other ?_
        rw [same.resolve_left unknown]
        exact given

end BufferKind

namespace BufferBinding

def ownEntries (binding : BufferBinding) (entries : List ArgumentEntry) : List ArgumentEntry :=
  entriesOf entries binding.argumentName binding.argumentNumber

private theorem place_ok {buffers : Store Buffer} {entry : ArgumentEntry}
    {binding placed : BufferBinding} :
    (place buffers entry).apply binding = (.ok ⟨⟩, placed) ↔
      if entry.isOf binding.argumentName binding.argumentNumber then
        ∃ kind, BufferKind.ofArgument? entry.kind = some kind ∧
          (binding.kind = .unknown ∨ binding.kind = kind) ∧
          placed = { binding with kind, slot := entry.slot }
      else placed = binding := by
  rw [place, Edit.apply_bind_of_ok (Edit.apply_get binding)]
  dsimp only
  by_cases own : entry.isOf binding.argumentName binding.argumentNumber = true
  · rw [if_pos own, if_pos own]
    constructor
    · intro done
      obtain ⟨kind, given, done⟩ := Edit.bind_ofExcept_ok done
      obtain ⟨present, allowed⟩ := BufferKind.forArgument_ok.mp given
      exact ⟨kind, present, allowed, (Prod.mk.inj done).2.symm⟩
    · rintro ⟨kind, present, allowed, rfl⟩
      rw [Edit.apply_bind, Edit.apply_ofExcept, BufferKind.forArgument_ok.mpr ⟨present, allowed⟩]
      rfl
  · rw [if_neg own, if_neg own]
    exact ⟨fun done => (Prod.mk.inj done).2.symm, fun same => same ▸ rfl⟩

/-- All entries of the argument are of the kind that the binding gets; one that has no kind gets
that of its entries. -/
theorem placeAll_ok {buffers : Store Buffer} {entries : List ArgumentEntry}
    {binding placed : BufferBinding} :
    (entries.forM (place buffers)).apply binding = (.ok ⟨⟩, placed) ↔
      (∀ entry ∈ binding.ownEntries entries,
        BufferKind.ofArgument? entry.kind = some placed.kind) ∧
      (binding.kind = placed.kind ∨
        binding.kind = .unknown ∧ binding.ownEntries entries ≠ []) ∧
      placed = { binding with
        kind := placed.kind
        slot := lastSlot (binding.ownEntries entries) binding.slot } := by
  induction entries generalizing binding with
  | nil =>
    constructor
    · intro done
      cases (Prod.mk.inj done).2
      exact ⟨nofun, .inl rfl, rfl⟩
    · rintro ⟨-, kind | ⟨-, some⟩, same⟩
      · rw [same, ← kind]
        rfl
      · exact absurd rfl some
  | cons entry rest ih =>
    rw [Edit.forM_cons_ok]
    simp only [ih, place_ok]
    simp only [ownEntries, entriesOf_cons]
    by_cases own : entry.isOf binding.argumentName binding.argumentNumber = true
    · simp only [own, if_true]
      rw [lastSlot_cons, List.forall_mem_cons]
      constructor
      · rintro ⟨_, ⟨kind, given, allowed, rfl⟩, later, kept, same⟩
        have settled : kind = placed.kind := by
          rcases kept with kind | ⟨unknown, -⟩
          · exact kind
          · dsimp only at unknown
            subst unknown
            obtain ⟨_, word⟩ := BufferKind.word_of_ofArgument? given
            cases word
        subst settled
        exact ⟨⟨given, later⟩, allowed.symm.imp_right fun unknown => ⟨unknown, nofun⟩, same⟩
      · rintro ⟨⟨given, later⟩, allowed, same⟩
        refine ⟨_, ⟨placed.kind, given, ?_, rfl⟩, later, .inl rfl, same⟩
        exact (allowed.imp_right And.left).symm
    · simp only [own, Bool.false_eq_true, if_false]
      constructor
      · rintro ⟨_, rfl, settled⟩
        exact settled
      · intro settled
        exact ⟨_, rfl, settled⟩

theorem resolve_again {buffers : Store Buffer} {entries : List ArgumentEntry}
    {binding placed : BufferBinding}
    (resolved : (resolve buffers entries binding).apply binding = (.ok ⟨⟩, placed))
    (later : Store Buffer) :
    (resolve later entries placed).apply placed = (.ok ⟨⟩, placed) := by
  unfold resolve at resolved ⊢
  by_cases unbound : binding.slot.isUnbound = true
  · rw [if_pos unbound] at resolved
    obtain ⟨kinds, -, same⟩ := placeAll_ok.mp resolved
    split
    · have own : placed.ownEntries entries = binding.ownEntries entries := by
        rw [same]
        rfl
      have slot : placed.slot = lastSlot (binding.ownEntries entries) binding.slot := by rw [same]
      refine placeAll_ok.mpr ⟨own ▸ kinds, .inl rfl, ?_⟩
      rw [own, slot, lastSlot_lastSlot, ← slot]
    · rfl
  · rw [if_neg unbound] at resolved
    cases resolved
    rw [if_neg unbound]
    rfl

/-- A binding without a slot stays as it is exactly when all entries of its argument are of its kind
and the last one has no slot either. -/
theorem resolve_unbound_iff {buffers : Store Buffer} {entries : List ArgumentEntry}
    {binding : BufferBinding} (unbound : binding.slot = .unbound) :
    (resolve buffers entries binding).apply binding = (.ok ⟨⟩, binding) ↔
      (∀ entry ∈ binding.ownEntries entries,
        BufferKind.ofArgument? entry.kind = some binding.kind) ∧
      ∀ last ∈ (binding.ownEntries entries).getLast?, last.slot = .unbound := by
  rw [resolve, if_pos (BindingSlot.isUnbound_iff.mpr unbound), placeAll_ok]
  refine and_congr_right fun _ => ?_
  have stays : binding = { binding with
      kind := binding.kind
      slot := lastSlot (binding.ownEntries entries) binding.slot } ↔
      lastSlot (binding.ownEntries entries) binding.slot = .unbound := by
    constructor
    · intro same
      exact (congrArg BufferBinding.slot same).symm.trans unbound
    · intro same
      rw [same, ← unbound]
  rw [stays, lastSlot, unbound]
  cases (binding.ownEntries entries).getLast? <;> simp

end BufferBinding

theorem exists_of_forall₂ {Item Other : Type} {related : Item → Other → Prop} {items : List Item}
    {others : List Other} (each : List.Forall₂ related items others) {other : Other}
    (member : other ∈ others) : ∃ item ∈ items, related item other := by
  induction each with
  | nil => cases member
  | cons first _ ih =>
    rcases List.mem_cons.mp member with rfl | later
    · exact ⟨_, List.mem_cons_self, first⟩
    · obtain ⟨item, held, same⟩ := ih later
      exact ⟨item, List.mem_cons_of_mem _ held, same⟩

theorem Edit.onEach_ok {Item : Type} {operation : Item → Edit Item Unit} {items after : List Item} :
    (Edit.onEach operation).apply items = (.ok ⟨⟩, after) ↔
      List.Forall₂ (fun item changed => (operation item).apply item = (.ok ⟨⟩, changed))
        items after := by
  change Edit.onEach.go operation items = (.ok ⟨⟩, after) ↔ _
  induction items generalizing after with
  | nil =>
    rw [Edit.onEach.go, List.forall₂_nil_left_iff]
    exact ⟨fun done => (Prod.mk.inj done).2.symm, fun same => same ▸ rfl⟩
  | cons item rest ih =>
    rw [Edit.onEach.go, List.forall₂_cons_left_iff]
    cases ran : (operation item).apply item with
    | mk outcome changed =>
      cases outcome with
      | error fault =>
        refine iff_of_false nofun ?_
        rintro ⟨other, later, done, -⟩
        cases done
      | ok result =>
        constructor
        · intro done
          obtain ⟨outcome, same⟩ := Prod.mk.inj done
          exact ⟨changed, _, rfl, ih.mp (Prod.ext outcome rfl), same.symm⟩
        · rintro ⟨other, later, done, each, rfl⟩
          cases done
          dsimp only
          rw [ih.mpr each]

namespace Pipeline

/-- Placing arguments resolves each binding on its own; without a kernel nothing is placed. -/
theorem placeArguments_ok {buffers : Store Buffer} {pipeline placed : Pipeline} :
    (placeArguments buffers).apply pipeline = (.ok ⟨⟩, placed) ↔
      ∃ samplers bindings, placed = { pipeline with samplers, buffers := bindings } ∧
        List.Forall₂ (fun binding placed =>
          (SamplerBinding.resolve pipeline.argumentEntries binding).apply binding =
            (.ok ⟨⟩, placed)) pipeline.samplers samplers ∧
        List.Forall₂ (fun binding placed =>
          (BufferBinding.resolve buffers pipeline.argumentEntries binding).apply binding =
            (.ok ⟨⟩, placed)) pipeline.buffers bindings := by
  rw [placeArguments, Edit.apply_bind_of_ok (Edit.apply_get pipeline), argumentEntries]
  cases pipeline.kernelArguments? with
  | none =>
    have samplers : SamplerBinding.resolve [] = fun _ => pure () := funext fun _ => ite_self _
    have bindings : BufferBinding.resolve buffers [] = fun _ => pure () :=
      funext fun _ => ite_self _
    have untouched {Item : Type} {items after : List Item} :
        List.Forall₂ (fun item changed =>
          (pure () : Edit Item Unit).apply item = (.ok ⟨⟩, changed)) items after ↔
          items = after := by
      simp only [Edit.apply_pure, Prod.mk.injEq, true_and]
      exact List.forall₂_eq_eq_eq ▸ Iff.rfl
    simp only [Option.getD_none, samplers, bindings, untouched]
    constructor
    · rintro ⟨⟩
      exact ⟨_, _, rfl, rfl, rfl⟩
    · rintro ⟨_, _, rfl, rfl, rfl⟩
      rfl
  | some entries =>
    simp only [Option.getD_some, ← Edit.onEach_ok, Edit.bind_ok, Edit.onPart_ok]
    constructor
    · rintro ⟨_, _, ⟨samplers, sampled, rfl⟩, bindings, bound, rfl⟩
      exact ⟨samplers, bindings, rfl, sampled, bound⟩
    · rintro ⟨samplers, bindings, rfl, sampled, bound⟩
      exact ⟨⟨⟩, _, ⟨samplers, sampled, rfl⟩, bindings, bound, rfl⟩

end Pipeline

end GpuScript
