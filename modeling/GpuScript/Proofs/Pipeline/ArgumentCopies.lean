import GpuScript.Proofs.Pipeline.Arguments
import GpuScript.Proofs.Pipeline.Copies

/-! The values of kernel arguments in a copy of their pipeline. The copy stores them anew when its
source has a buffer that was made for a slot; push constants alone are not stored again. -/
namespace GpuScript

/-- The bytes of an entry's value among others. -/
def ArgumentEntry.bytesIn (entry : ArgumentEntry) (bytes : Array UInt8) : Array UInt8 :=
  bytes.extract entry.offset (entry.offset + entry.size)

namespace Pipeline

/-- The buffer that is bound for the value of an entry: the one at its slot, or the one for push
constants. -/
def holder? (pipeline : Pipeline) (entry : ArgumentEntry) : Option (Id Buffer) :=
  if entry.kind = .podPushConstant then pipeline.pushConstants.map (·.buffer)
  else pipeline.bufferAt? entry.slot

/-- The value of an entry survives copying: the copy has a buffer of its own for it, and that has
the bytes of the value. -/
def Survives (buffers : Store Buffer) (source copy : Pipeline) (entry : ArgumentEntry) : Prop :=
  ∃ own other left right, source.holder? entry = some own ∧ copy.holder? entry = some other ∧
    own ≠ other ∧ buffers.get? own = some left ∧ buffers.get? other = some right ∧
    entry.bytesIn left.bytes = entry.bytesIn right.bytes

end Pipeline

namespace Workbench

variable {bench made after : Workbench}

theorem storageAt?_withCopy (bench : Workbench) (name : String) (place : Option BindingSlot) :
    (bench.withCopy name).pipeline.storageAt? place = none := by
  cases place <;> rfl

theorem Supplied.holder? {start bench : Workbench} {used : Option BindingSlot → Prop}
    {writes : Option BindingSlot → List ByteWrite} (supplied : Supplied start used writes bench)
    {entry : ArgumentEntry} {id : Id Buffer}
    (missing : start.pipeline.storageAt? entry.place = none)
    (found : bench.pipeline.storageAt? entry.place = some id) :
    bench.pipeline.holder? entry = some id := by
  unfold Pipeline.holder?
  split
  · rename_i push
    rw [ArgumentEntry.place_eq_none.mpr push] at found
    exact found
  · rename_i plain
    have located : entry.place = some entry.slot := ArgumentEntry.place_eq_some.mpr ⟨plain, rfl⟩
    exact (supplied.stored _ id missing found).bound _ located

/-- Some value of the kernel is stored in a buffer of a slot. -/
def StoresPlain (bench : Workbench) : Prop :=
  ∃ argument ∈ bench.pipeline.argumentValues,
    ∃ entry ∈ argument.entry? bench.pipeline.argumentEntries, entry.kind ≠ .podPushConstant

section Generated

variable (unstored : bench.pipeline.argumentBuffers = [])
  (housed : ∀ binding ∈ bench.pipeline.pushConstants,
    binding.buffer.index < bench.buffers.size)
  (generated : makeArgumentBuffers.apply bench = (.ok ⟨⟩, made))
include unstored housed generated

theorem supplied_generated :
    Supplied bench (bench.pipeline.valuesAt · ≠ [])
      (writesAt bench.pipeline.argumentEntries bench.pipeline.argumentValues) made := by
  refine supplied_makeArgumentBuffers (fun argument given entry found id there => ?_) generated
  cases located : entry.place with
  | none =>
    rw [located] at there
    obtain ⟨binding, bound, rfl⟩ := Option.map_eq_some_iff.mp there
    exact housed binding bound
  | some slot =>
    rw [located, Option.mem_def, Pipeline.storageAt?, unstored] at there
    cases there

theorem argumentBuffers_ne_nil_iff :
    made.pipeline.argumentBuffers ≠ [] ↔ bench.StoresPlain := by
  have supplied := supplied_generated unstored housed generated
  have free (slot : BindingSlot) : bench.pipeline.storageAt? (some slot) = none := by
    rw [Pipeline.storageAt?, unstored]
    rfl
  constructor
  · intro stored
    obtain ⟨⟨slot, id⟩, rest, same⟩ := List.exists_cons_of_ne_nil stored
    have found : made.pipeline.storageAt? (some slot) = some id := by
      rw [Pipeline.storageAt?, same, List.lookup_cons_self]
    have used := (supplied.used_iff _ (free slot)).mpr ⟨id, found⟩
    obtain ⟨⟨entry, argument⟩, member⟩ := List.exists_mem_of_ne_nil _ used
    obtain ⟨given, present, located⟩ := mem_placedAt.mp member
    exact ⟨argument, given, entry, present, (ArgumentEntry.place_eq_some.mp located).1⟩
  · rintro ⟨argument, given, entry, present, plain⟩ none
    have located := ArgumentEntry.place_eq_some.mpr ⟨plain, rfl⟩
    have used := List.ne_nil_of_mem (mem_placedAt.mpr ⟨given, present, located⟩)
    obtain ⟨id, found⟩ := (supplied.used_iff _ (free entry.slot)).mp used
    rw [Pipeline.storageAt?, none] at found
    cases found

/-- The copy stores its values anew when a slot has a buffer for values of its source. -/
theorem supplied_copied {name : String} {copy : Pipeline} (plain : bench.StoresPlain)
    (copied : (copyPipeline name).apply made = (.ok copy, after)) :
    ∃ remade, copy = remade.pipeline ∧ after.buffers = remade.buffers ∧
      Supplied (made.withCopy name) (bench.pipeline.valuesAt · ≠ [])
        (writesAt bench.pipeline.argumentEntries bench.pipeline.argumentValues) remade := by
  have slotted := (argumentBuffers_ne_nil_iff unstored housed generated).mpr plain
  have outline := outline_makeArgumentBuffers bench
  rw [generated] at outline
  obtain ⟨-, known, values⟩ := Pipeline.kernel_of_outline outline
  have entries : made.pipeline.argumentEntries = bench.pipeline.argumentEntries :=
    congrArg (Option.getD · []) known
  rw [apply_copyPipeline, if_neg (by simpa using slotted)] at copied
  cases ran : makeArgumentBuffers.apply (made.withCopy name) with
  | mk outcome remade =>
    rw [ran] at copied
    cases outcome with
    | error fault => cases copied
    | ok done =>
      cases copied
      have unhoused : ∀ argument ∈ (made.withCopy name).pipeline.argumentValues,
          ∀ entry ∈ argument.entry? (made.withCopy name).pipeline.argumentEntries,
          ∀ id ∈ (made.withCopy name).pipeline.storageAt? entry.place,
            id.index < (made.withCopy name).buffers.size := by
        intro argument _ entry _ id there
        rw [storageAt?_withCopy] at there
        cases there
      have supplied := supplied_makeArgumentBuffers unhoused ran
      have sameEntries : (made.withCopy name).pipeline.argumentEntries =
          bench.pipeline.argumentEntries := entries
      have sameValues : (made.withCopy name).pipeline.argumentValues =
          bench.pipeline.argumentValues := values
      have used : (made.withCopy name).pipeline.valuesAt = bench.pipeline.valuesAt := by
        funext place
        rw [Pipeline.valuesAt, sameEntries, sameValues]
        rfl
      rw [used, sameEntries, sameValues] at supplied
      exact ⟨remade, rfl, rfl, supplied⟩

/-- A copy that stores its values anew has for each the bytes that were written for its place. -/
theorem survives_copied_iff {name : String} {copy : Pipeline} (plain : bench.StoresPlain)
    (copied : (copyPipeline name).apply made = (.ok copy, after)) {entry : ArgumentEntry}
    (used : bench.pipeline.valuesAt entry.place ≠ []) {own : Id Buffer} {buffer : Buffer}
    (held : made.pipeline.holder? entry = some own)
    (present : made.buffers.get? own = some buffer) :
    Pipeline.Survives after.buffers made.pipeline copy entry ↔
      entry.bytesIn buffer.bytes = entry.bytesIn (layered (writesAt bench.pipeline.argumentEntries
        bench.pipeline.argumentValues entry.place)) := by
  obtain ⟨remade, rfl, buffers, supplied⟩ :=
    supplied_copied unstored housed generated plain copied
  have missing := storageAt?_withCopy made name entry.place
  obtain ⟨other, found⟩ := (supplied.used_iff _ missing).mp used
  have heldCopy := supplied.holder? missing found
  obtain ⟨fresh, -, right, presentCopy, -, contents⟩ := supplied.stored _ other missing found
  have before : own.index < made.buffers.size := Store.lt_size_of_get? present
  have kept : remade.buffers.get? own = some buffer := by
    refine (supplied.older own before fun place _ there => ?_).trans present
    rw [storageAt?_withCopy] at there
    cases there
  rw [buffers, ← contents]
  constructor
  · rintro ⟨first, second, left, last, heldFirst, heldSecond, -, presentFirst, presentSecond, same⟩
    cases held.symm.trans heldFirst
    cases heldCopy.symm.trans heldSecond
    cases kept.symm.trans presentFirst
    cases presentCopy.symm.trans presentSecond
    exact same
  · intro same
    refine ⟨own, other, buffer, right, held, heldCopy, ?_, kept, presentCopy, same⟩
    rintro rfl
    exact absurd before (Nat.not_lt.mpr fresh)

private theorem survives_of_missing {name : String} {copy : Pipeline} (plain : bench.StoresPlain)
    (copied : (copyPipeline name).apply made = (.ok copy, after)) {entry : ArgumentEntry}
    (used : bench.pipeline.valuesAt entry.place ≠ [])
    (missing : bench.pipeline.storageAt? entry.place = none) :
    Pipeline.Survives after.buffers made.pipeline copy entry := by
  have supplied := supplied_generated unstored housed generated
  obtain ⟨own, there⟩ := (supplied.used_iff _ missing).mp used
  obtain ⟨-, -, buffer, present, -, contents⟩ := supplied.stored _ own missing there
  rw [survives_copied_iff unstored housed generated plain copied used
    (supplied.holder? missing there) present, contents]

/-- Push constants alone are not copied. -/
theorem lost_of_slotless {name : String} {copy : Pipeline} (slotless : ¬bench.StoresPlain)
    (copied : (copyPipeline name).apply made = (.ok copy, after)) {entry : ArgumentEntry}
    (push : entry.kind = .podPushConstant) :
    ¬Pipeline.Survives after.buffers made.pipeline copy entry := by
  have none : made.pipeline.argumentBuffers.isEmpty := by
    rw [List.isEmpty_iff]
    exact not_not.mp (slotless ∘ (argumentBuffers_ne_nil_iff unstored housed generated).mp)
  rw [apply_copyPipeline, if_pos none] at copied
  cases copied
  rintro ⟨own, other, left, right, -, heldCopy, -⟩
  rw [Pipeline.holder?, if_pos push] at heldCopy
  cases heldCopy

/-- After storage has been made for a kernel that had none, the value of an entry survives copying
exactly when it is no push constant, or when some other value has a slot and a push constant buffer
that was bound before has got the very bytes that a new one gets. -/
theorem survives_copyPipeline_iff {name : String} {copy : Pipeline}
    (copied : (copyPipeline name).apply made = (.ok copy, after)) :
    ∀ argument ∈ bench.pipeline.argumentValues,
      ∀ entry ∈ argument.entry? bench.pipeline.argumentEntries,
        Pipeline.Survives after.buffers made.pipeline copy entry ↔
          (entry.kind = .podPushConstant → bench.StoresPlain ∧
            ∀ binding ∈ bench.pipeline.pushConstants,
              ∀ buffer ∈ made.buffers.get? binding.buffer,
                entry.bytesIn buffer.bytes = entry.bytesIn (layered (writesAt
                  bench.pipeline.argumentEntries bench.pipeline.argumentValues none))) := by
  intro argument given entry found
  have used : bench.pipeline.valuesAt entry.place ≠ [] :=
    List.ne_nil_of_mem (mem_placedAt.mpr ⟨given, found, rfl⟩)
  have survives (plain : bench.StoresPlain) :=
    survives_of_missing unstored housed generated plain copied used
  by_cases push : entry.kind = .podPushConstant
  · have located := ArgumentEntry.place_eq_none.mpr push
    by_cases plain : bench.StoresPlain
    · cases bound : bench.pipeline.pushConstants with
      | none =>
        refine iff_of_true (survives plain ?_) fun _ => ⟨plain, by simp⟩
        rw [located, Pipeline.storageAt?, bound]
        rfl
      | some binding =>
        have supplied := supplied_generated unstored housed generated
        have there : made.pipeline.storageAt? none = some binding.buffer := by
          refine supplied.kept none _ ?_
          rw [Pipeline.storageAt?, bound]
          rfl
        have held : made.pipeline.holder? entry = some binding.buffer := by
          rw [Pipeline.holder?, if_pos push]
          exact there
        obtain ⟨buffer, present⟩ := Store.exists_get?_of_lt
          (Nat.lt_of_lt_of_le (housed binding bound) supplied.grown)
        rw [survives_copied_iff unstored housed generated plain copied used held present, located]
        simp [push, plain, present]
    · exact iff_of_false (lost_of_slotless unstored housed generated plain copied push)
        fun promised => plain (promised push).1
  · have located : entry.place = some entry.slot := ArgumentEntry.place_eq_some.mpr ⟨push, rfl⟩
    have plain : bench.StoresPlain := ⟨argument, given, entry, found, push⟩
    refine iff_of_true (survives plain ?_) fun kind => absurd kind push
    rw [located, Pipeline.storageAt?, unstored]
    rfl

end Generated

/-- Beside a value at a slot a push constant survives copying. -/
theorem survives_copyPipeline_iff_mixed :
    let scale : ArgumentEntry := { name := "scale", kind := .pod, size := 1 }
    let shift : ArgumentEntry := { name := "shift", kind := .podPushConstant, size := 1 }
    let kernel : AttachedShader :=
      { shader := ⟨0⟩
        name := "double"
        format := .openClC
        stage := .compute
        argumentMap := [("main", [scale, shift])] }
    let work : Pipeline :=
      { name := "work"
        kind := .compute
        shaders := [kernel]
        argumentValues :=
          [⟨"scale", 0, .unsignedByte, .integer 2⟩, ⟨"shift", 1, .unsignedByte, .integer 3⟩] }
    let made := makeArgumentBuffers.apply { pipeline := work }
    let copied := (copyPipeline "again").apply made.2
    made.1 = .ok ⟨⟩ ∧ ∃ copy, copied.1 = .ok copy ∧
      Pipeline.Survives copied.2.buffers made.2.pipeline copy shift := by
  intro scale shift kernel work made copied
  have done : made.1 = .ok ⟨⟩ := by decide +revert +kernel
  have returned : copied.1.isOk = true := by
    clear done
    decide +revert +kernel
  have found : shift ∈ (ArgumentValue.entry? ⟨"shift", 1, .unsignedByte, .integer 3⟩
      work.argumentEntries) := by
    clear done returned
    decide +revert +kernel
  have plain : StoresPlain { pipeline := work } := by
    clear done returned found
    refine ⟨⟨"scale", 0, .unsignedByte, .integer 2⟩, List.mem_cons_self, scale, ?_, nofun⟩
    decide +revert +kernel
  have unpushed : ∀ binding, binding ∉ work.pushConstants := fun _ bound => nomatch bound
  have ran : made = (.ok ⟨⟩, made.2) := Prod.ext done rfl
  cases answered : copied.1 with
  | error fault =>
    rw [answered] at returned
    cases returned
  | ok copy =>
    have ranCopy : copied = (.ok copy, copied.2) := Prod.ext answered rfl
    have survives := survives_copyPipeline_iff rfl
      (fun binding bound => absurd bound (unpushed binding)) ran ranCopy _
      (List.mem_cons_of_mem _ List.mem_cons_self) shift found
    exact ⟨done, copy, rfl, survives.mpr fun _ =>
      ⟨plain, fun binding bound => absurd bound (unpushed binding)⟩⟩

/-- The copy of a pipeline with a push constant alone has no buffer for it. -/
theorem survives_copyPipeline_push :
    let shift : ArgumentEntry := { name := "shift", kind := .podPushConstant, size := 1 }
    let kernel : AttachedShader :=
      { shader := ⟨0⟩
        name := "double"
        format := .openClC
        stage := .compute
        argumentMap := [("main", [shift])] }
    let work : Pipeline :=
      { name := "work"
        kind := .compute
        shaders := [kernel]
        argumentValues := [⟨"shift", 0, .unsignedByte, .integer 3⟩] }
    let made := makeArgumentBuffers.apply { pipeline := work }
    let copied := (copyPipeline "again").apply made.2
    made.1 = .ok ⟨⟩ ∧ made.2.pipeline.holder? shift = some ⟨0⟩ ∧
      ∃ copy, copied.1 = .ok copy ∧ copy.holder? shift = none ∧
        ¬Pipeline.Survives copied.2.buffers made.2.pipeline copy shift := by
  intro shift kernel work made copied
  have done : made.1 = .ok ⟨⟩ := by decide +revert +kernel
  have held : made.2.pipeline.holder? shift = some ⟨0⟩ := by
    clear done
    decide +revert +kernel
  have lost : copied.1.toOption.map (·.holder? shift) = some none := by
    clear done held
    decide +revert +kernel
  cases returned : copied.1 with
  | error fault =>
    rw [returned] at lost
    cases lost
  | ok copy =>
    rw [returned] at lost
    have unheld : copy.holder? shift = none := Option.some.inj lost
    refine ⟨done, held, copy, rfl, unheld, ?_⟩
    rintro ⟨own, other, left, right, -, heldCopy, -⟩
    rw [unheld] at heldCopy
    cases heldCopy

end Workbench

end GpuScript
