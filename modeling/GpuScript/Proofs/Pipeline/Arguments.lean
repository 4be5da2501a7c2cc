import GpuScript.Proofs.Buffer.Layers
import GpuScript.Proofs.Pipeline.Storing
import Mathlib.Logic.ExistsUnique

namespace GpuScript

namespace ByteWrite

private theorem onto_resizeBytes (write : ByteWrite) (bytes : Array UInt8) :
    write.onto (resizeBytes bytes (max bytes.size write.reach)) = write.onto bytes := by
  refine Array.ext_getElem? fun index => ?_
  rw [getElem?_onto, getElem?_onto, size_resizeBytes, Nat.max_eq_left (Nat.le_max_right _ _),
    getElem?_resizeBytes]
  split <;> rfl

end ByteWrite

namespace ArgumentValue

def bytes (argument : ArgumentValue) : Array UInt8 :=
  (argument.byteValues.map Value.lowByte).toArray

theorem size_bytes (argument : ArgumentValue) : argument.bytes.size = argument.format.size := by
  simp [bytes, byteValues]

def write (argument : ArgumentValue) (entry : ArgumentEntry) : ByteWrite :=
  ⟨entry.offset, argument.bytes⟩

theorem reach_write (argument : ArgumentValue) (entry : ArgumentEntry) :
    (argument.write entry).reach = entry.offset + argument.format.size := by
  rw [ByteWrite.reach, write, size_bytes]

end ArgumentValue

namespace ArgumentEntry

theorem apply_fit_bytes (entry : ArgumentEntry) {buffer : Buffer} (isBytes : buffer.IsBytes) :
    entry.fit.apply buffer =
      (.ok ⟨⟩, buffer.withBytes
        (resizeBytes buffer.bytes (max buffer.bytes.size (entry.offset + entry.size)))) := by
  have held : buffer.valueCount = buffer.bytes.size := by
    rw [Buffer.valueCount, isBytes.format]
    exact (Nat.mul_one _).trans isBytes.elementCount
  rw [fit, Edit.apply_bind_of_ok (Edit.apply_get buffer), held]
  by_cases short : buffer.bytes.size < entry.offset + entry.size
  · rw [if_pos short, Buffer.resizeElements, Edit.apply_bind_of_ok (Edit.apply_get buffer),
      Buffer.requireFormat_of_format isBytes.format,
      Edit.apply_bind_of_ok (Edit.apply_ofExcept _ _), Nat.max_eq_right (by omega),
      Buffer.withBytes, size_resizeBytes, Buffer.size_unsignedByte, Nat.mul_one]
    rfl
  · rw [if_neg short, Nat.max_eq_left (by omega), resizeBytes_size, isBytes.withBytes_bytes]
    rfl

/-- Storing a value in a buffer of bytes lays its bytes over the buffer. -/
theorem apply_store_bytes {entry : ArgumentEntry} {argument : ArgumentValue}
    (agree : entry.kind ≠ .podPushConstant → entry.size = argument.format.size) {buffer : Buffer}
    (isBytes : buffer.IsBytes) :
    (entry.store argument).apply buffer =
      (.ok ⟨⟩, buffer.withBytes ((argument.write entry).onto buffer.bytes)) := by
  by_cases push : entry.kind = .podPushConstant
  · rw [store, if_neg (not_not_intro push)]
    exact Buffer.apply_setDataAt_bytes isBytes _ _
  · have fitted := entry.apply_fit_bytes isBytes
    rw [agree push, ← argument.reach_write] at fitted
    rw [store, if_pos push, Edit.apply_bind_of_ok fitted,
      Buffer.apply_setDataAt_bytes (Buffer.isBytes_withBytes isBytes.format _)]
    exact congrArg (fun bytes => ((.ok ⟨⟩ : Except Fault Unit), buffer.withBytes bytes))
      ((argument.write entry).onto_resizeBytes buffer.bytes)

end ArgumentEntry

def placedAt (entries : List ArgumentEntry) (arguments : List ArgumentValue)
    (place : Option BindingSlot) : List (ArgumentEntry × ArgumentValue) :=
  arguments.filterMap fun argument =>
    ((argument.entry? entries).filter (·.place == place)).map (·, argument)

def writesAt (entries : List ArgumentEntry) (arguments : List ArgumentValue)
    (place : Option BindingSlot) : List ByteWrite :=
  (placedAt entries arguments place).map fun placed => placed.2.write placed.1

theorem mem_placedAt {entries : List ArgumentEntry} {arguments : List ArgumentValue}
    {place : Option BindingSlot} {entry : ArgumentEntry} {argument : ArgumentValue} :
    (entry, argument) ∈ placedAt entries arguments place ↔
      argument ∈ arguments ∧ argument.entry? entries = some entry ∧ entry.place = place := by
  unfold placedAt
  rw [List.mem_filterMap]
  constructor
  · rintro ⟨given, member, placed⟩
    obtain ⟨found, kept, same⟩ := Option.map_eq_some_iff.mp placed
    obtain ⟨rfl, rfl⟩ := Prod.mk.inj same
    obtain ⟨present, located⟩ := Option.filter_eq_some_iff.mp kept
    exact ⟨member, present, beq_iff_eq.mp located⟩
  · rintro ⟨member, present, located⟩
    refine ⟨argument, member, Option.map_eq_some_iff.mpr ⟨entry, ?_, rfl⟩⟩
    exact Option.filter_eq_some_iff.mpr ⟨present, beq_iff_eq.mpr located⟩

section Placed

variable {entries : List ArgumentEntry} {argument : ArgumentValue} {entry : ArgumentEntry}
  (found : argument.entry? entries = some entry) (arguments : List ArgumentValue)
include found

theorem placedAt_cons (place : Option BindingSlot) :
    placedAt entries (argument :: arguments) place =
      if entry.place = place then (entry, argument) :: placedAt entries arguments place
      else placedAt entries arguments place := by
  unfold placedAt
  rw [List.filterMap_cons, found]
  by_cases located : entry.place = place
  · simp [Option.filter, located]
  · simp [Option.filter, located]

theorem placedAt_concat (place : Option BindingSlot) :
    placedAt entries (arguments ++ [argument]) place =
      placedAt entries arguments place ++
        if place = entry.place then [(entry, argument)] else [] := by
  unfold placedAt
  rw [List.filterMap_append, List.filterMap_cons, List.filterMap_nil, found]
  by_cases located : place = entry.place
  · simp [Option.filter, located]
  · simp [Option.filter, located, Ne.symm located]

theorem writesAt_concat (place : Option BindingSlot) :
    writesAt entries (arguments ++ [argument]) place =
      if place = entry.place then
        writesAt entries arguments place ++ [argument.write entry]
      else writesAt entries arguments place := by
  unfold writesAt
  rw [placedAt_concat found arguments place]
  split <;> simp

end Placed

namespace Pipeline

/-- Where the arguments of the kernel live; nowhere when there is no kernel. -/
def argumentEntries (pipeline : Pipeline) : List ArgumentEntry :=
  pipeline.kernelArguments?.getD []

theorem kernel_of_outline {left right : Pipeline} (same : left.outline = right.outline) :
    left.kernel? = right.kernel? ∧ left.kernelArguments? = right.kernelArguments? ∧
      left.argumentValues = right.argumentValues := by
  have shaders := congrArg Pipeline.shaders same
  have kind := congrArg Pipeline.kind same
  have values := congrArg Pipeline.argumentValues same
  change left.shaders = right.shaders at shaders
  change left.kind = right.kind at kind
  have kernel : left.kernel? = right.kernel? := by rw [kernel?, kernel?, shaders, kind]
  exact ⟨kernel, by rw [kernelArguments?, kernelArguments?, kernel], values⟩

def valuesAt (pipeline : Pipeline) (place : Option BindingSlot) :
    List (ArgumentEntry × ArgumentValue) :=
  placedAt pipeline.argumentEntries pipeline.argumentValues place

end Pipeline

namespace Workbench

/-- A buffer that has been made for a place holds what is written there. -/
structure Holds (start bench : Workbench) (writes : List ByteWrite) (place : Option BindingSlot)
    (id : Id Buffer) : Prop where
  fresh : start.buffers.size ≤ id.index
  bound : ∀ slot, place = some slot → bench.pipeline.bufferAt? slot = some id
  contents : ∃ buffer, bench.buffers.get? id = some buffer ∧ buffer.IsBytes ∧
    buffer.bytes = layered writes

/-- A bench on which values are stored: places that had a buffer at the start keep it, and each
other place in use has a buffer of its own, which holds what is written there. -/
structure Supplied (start : Workbench) (used : Option BindingSlot → Prop)
    (writes : Option BindingSlot → List ByteWrite) (bench : Workbench) : Prop where
  grown : start.buffers.size ≤ bench.buffers.size
  kept : ∀ place id, start.pipeline.storageAt? place = some id →
    bench.pipeline.storageAt? place = some id
  older : ∀ id, id.index < start.buffers.size →
    (∀ place, used place → start.pipeline.storageAt? place ≠ some id) →
    bench.buffers.get? id = start.buffers.get? id
  used_iff : ∀ place, start.pipeline.storageAt? place = none →
    (used place ↔ ∃ id, bench.pipeline.storageAt? place = some id)
  stored : ∀ place id, start.pipeline.storageAt? place = none →
    bench.pipeline.storageAt? place = some id → Holds start bench (writes place) place id
  apart : ∀ place other id, start.pipeline.storageAt? place = none →
    start.pipeline.storageAt? other = none → bench.pipeline.storageAt? place = some id →
    bench.pipeline.storageAt? other = some id → place = other
  owned : ∀ id, start.buffers.size ≤ id.index → id.index < bench.buffers.size →
    ∃ place, start.pipeline.storageAt? place = none ∧ bench.pipeline.storageAt? place = some id

private theorem supplied_start (start : Workbench) :
    Supplied start (fun _ => False) (fun _ => []) start where
  grown := Nat.le_refl _
  kept _ _ there := there
  older _ _ _ := rfl
  used_iff place missing := by simp [missing]
  stored place id missing there := by
    rw [missing] at there
    cases there
  apart place other id missing _ there _ := by
    rw [missing] at there
    cases there
  owned id fresh bound := absurd bound (Nat.not_lt.mpr fresh)

theorem equipped_of_none {bench : Workbench} {entry : ArgumentEntry}
    (missing : bench.pipeline.storageAt? entry.place = none) :
    ∃ made : Buffer, made.IsBytes ∧ made.bytes = #[] ∧
      (bench.equipped entry).buffers = bench.buffers.push made ∧
      ∀ slot, (bench.equipped entry).pipeline.bufferAt? slot =
        (bench.pipeline.bufferAt? slot).or
          (if entry.place = some slot then some bench.buffers.nextId else none) := by
  rw [equipped, missing]
  cases located : entry.place with
  | none =>
    refine ⟨_, Buffer.isBytes_empty rfl rfl rfl, rfl, rfl, fun slot => ?_⟩
    rw [if_neg (Option.some_ne_none slot).symm, Option.or_none]
    rfl
  | some own =>
    refine ⟨_, Buffer.isBytes_empty rfl rfl rfl, rfl, rfl, fun slot => ?_⟩
    unfold Pipeline.bufferAt? withArgumentBuffer
    dsimp only
    rw [List.find?_append, Option.map_or]
    by_cases same : own = slot
    · simp [same]
    · simp [same]

variable {start bench : Workbench} {used : Option BindingSlot → Prop}
  {writes : Option BindingSlot → List ByteWrite}

theorem Holds.equipped {written : List ByteWrite} {place : Option BindingSlot} {id : Id Buffer}
    (holds : Holds start bench written place id) (entry : ArgumentEntry) :
    Holds start (bench.equipped entry) written place id := by
  cases there : bench.pipeline.storageAt? entry.place with
  | some stored =>
    rw [equipped_of_some there]
    exact holds
  | none =>
    obtain ⟨made, -, -, buffers, bound⟩ := equipped_of_none there
    obtain ⟨fresh, placed, buffer, present, contents⟩ := holds
    refine ⟨fresh, fun slot located => ?_, buffer, ?_, contents⟩
    · rw [bound, placed slot located]
      rfl
    · rw [buffers, Store.get?_push_of_lt _ _ _ (Store.lt_size_of_get? present)]
      exact present

/-- A place that had no buffer at the start has the new one, or one that was there before. -/
theorem Supplied.recent (supplied : Supplied start used writes bench) {entry : ArgumentEntry}
    (there : bench.pipeline.storageAt? entry.place = none) {place : Option BindingSlot}
    {id : Id Buffer} (missing : start.pipeline.storageAt? place = none)
    (found : (bench.equipped entry).pipeline.storageAt? place = some id) :
    place = entry.place ∧ id = bench.buffers.nextId ∨
      bench.pipeline.storageAt? place = some id ∧ id.index < bench.buffers.size := by
  rw [storageAt?_equipped there] at found
  split at found
  · rename_i located
    exact .inl ⟨located, (Option.some.inj found).symm⟩
  · obtain ⟨buffer, present, -⟩ := (supplied.stored place id missing found).contents
    exact .inr ⟨found, Store.lt_size_of_get? present⟩

/-- The place of a value gets an empty buffer if it has none. -/
theorem Supplied.equipped (supplied : Supplied start used writes bench) (entry : ArgumentEntry)
    (free : ∀ slot, entry.place = some slot → bench.pipeline.storageAt? (some slot) = none →
      bench.pipeline.bufferAt? slot = none)
    (idle : ¬used entry.place → writes entry.place = []) :
    Supplied start (fun place => used place ∨ place = entry.place) writes
      (bench.equipped entry) := by
  cases there : bench.pipeline.storageAt? entry.place with
  | some id =>
    rw [equipped_of_some there]
    refine { supplied with
      older := fun id before untouched => ?_
      used_iff := fun place missing => ?_ }
    · exact supplied.older id before fun place used => untouched place (.inl used)
    · rw [supplied.used_iff place missing]
      refine or_iff_left_of_imp ?_
      rintro rfl
      exact ⟨id, there⟩
  | none =>
    obtain ⟨made, isBytes, empty, buffers, bound⟩ := equipped_of_none there
    have lookup := storageAt?_equipped there
    refine
      { grown := ?grown, kept := ?kept, older := ?older, used_iff := ?used, stored := ?stored,
        apart := ?apart, owned := ?owned }
    case grown =>
      rw [buffers, Store.size_push]
      exact Nat.le_succ_of_le supplied.grown
    case kept =>
      exact fun place id original => storageAt?_equipped_of_some (supplied.kept place id original)
    case older =>
      intro id before untouched
      rw [buffers, Store.get?_push_of_lt _ _ _ (Nat.lt_of_lt_of_le before supplied.grown)]
      exact supplied.older id before fun place used => untouched place (.inl used)
    case used =>
      intro place missing
      rw [lookup, supplied.used_iff place missing]
      split
      · rename_i located
        exact iff_of_true (.inr located) ⟨_, rfl⟩
      · rename_i other
        exact or_iff_left other
    case stored =>
      intro place id missing found
      rcases supplied.recent there missing found with ⟨rfl, rfl⟩ | ⟨earlier, -⟩
      · have unused : ¬used entry.place := by
          rw [supplied.used_iff _ missing, there]
          exact fun ⟨_, same⟩ => nomatch same
        refine ⟨supplied.grown, fun slot located => ?_, made, ?_, isBytes, ?_⟩
        · rw [bound, free slot located (located ▸ there), if_pos located]
          rfl
        · rw [buffers, Store.get?_nextId]
        · rw [idle unused, empty]
          rfl
      · exact (supplied.stored place id missing earlier).equipped entry
    case apart =>
      intro place other id missing missingOther found foundOther
      rcases supplied.recent there missing found with ⟨rfl, rfl⟩ | ⟨earlier, before⟩
      · rcases supplied.recent there missingOther foundOther with ⟨same, -⟩ | ⟨-, before⟩
        · exact same.symm
        · exact absurd before (Nat.lt_irrefl _)
      · rcases supplied.recent there missingOther foundOther with ⟨-, rfl⟩ | ⟨earlierOther, -⟩
        · exact absurd before (Nat.lt_irrefl _)
        · exact supplied.apart place other id missing missingOther earlier earlierOther
    case owned =>
      intro id fresh within
      rw [buffers, Store.size_push] at within
      rcases Nat.lt_succ_iff_lt_or_eq.mp within with before | last
      · obtain ⟨place, missing, found⟩ := supplied.owned id fresh before
        exact ⟨place, missing, storageAt?_equipped_of_some found⟩
      · have unstored : start.pipeline.storageAt? entry.place = none := by
          refine Option.eq_none_iff_forall_ne_some.mpr fun id original => ?_
          cases there.symm.trans (supplied.kept _ id original)
        refine ⟨entry.place, unstored, ?_⟩
        rw [lookup, if_pos rfl]
        exact congrArg some (Id.ext last.symm)

/-- Writing into the buffer of a place changes the contents of that place only. -/
theorem Supplied.written (supplied : Supplied start used writes bench)
    {place : Option BindingSlot} {id : Id Buffer} {buffer changed : Buffer} {write : ByteWrite}
    (housed : ∀ id, start.pipeline.storageAt? place = some id → id.index < start.buffers.size)
    (inUse : used place) (there : bench.pipeline.storageAt? place = some id)
    (present : bench.buffers.get? id = some buffer)
    (layers : buffer.IsBytes → changed = buffer.withBytes (write.onto buffer.bytes)) :
    Supplied start used
      (fun other => if other = place then writes other ++ [write] else writes other)
      (bench.setBuffer id changed) := by
  have rewritten {other : Option BindingSlot} {stored : Id Buffer}
      (missing : start.pipeline.storageAt? other = none)
      (found : bench.pipeline.storageAt? other = some stored) (same : stored = id) :
      other = place := by
    subst same
    cases original : start.pipeline.storageAt? place with
    | none => exact supplied.apart other place stored missing original found there
    | some first =>
      have kept := supplied.kept place first original
      rw [there] at kept
      cases kept
      exact absurd (housed stored original)
        (Nat.not_lt.mpr (supplied.stored other stored missing found).fresh)
  refine { supplied with grown := ?grown, older := ?older, stored := ?stored, owned := ?owned }
  case grown =>
    rw [size_setBuffer]
    exact supplied.grown
  case older =>
    intro other before untouched
    have apart : id ≠ other := by
      rintro rfl
      cases original : start.pipeline.storageAt? place with
      | none => exact absurd before (Nat.not_lt.mpr (supplied.stored place id original there).fresh)
      | some first =>
        have kept := supplied.kept place first original
        rw [there] at kept
        cases kept
        exact untouched place inUse original
    rw [setBuffer, Store.get?_set_of_ne _ apart]
    exact supplied.older other before untouched
  case stored =>
    intro other stored missing found
    obtain ⟨fresh, bound, held, presentHeld, isBytes, contents⟩ :=
      supplied.stored other stored missing found
    by_cases same : stored = id
    · cases rewritten missing found same
      subst same
      rw [presentHeld] at present
      cases present
      refine ⟨fresh, bound, changed, Store.get?_set_self presentHeld changed, ?_⟩
      rw [layers isBytes, if_pos rfl, layered_concat, ← contents]
      exact ⟨Buffer.isBytes_withBytes isBytes.format _, rfl⟩
    · have apart : other ≠ place := by
        rintro rfl
        exact same (Option.some.inj (found.symm.trans there))
      rw [if_neg apart]
      refine ⟨fresh, bound, held, ?_, isBytes, contents⟩
      exact (Store.get?_set_of_ne _ (Ne.symm same) _).trans presentHeld
  case owned =>
    intro other fresh within
    rw [size_setBuffer] at within
    exact supplied.owned other fresh within

/-- Storing one more value keeps what is stored at all places. -/
theorem Supplied.concat {entries : List ArgumentEntry} {done : List ArgumentValue}
    (supplied : Supplied start (placedAt entries done · ≠ []) (writesAt entries done) bench)
    {argument : ArgumentValue} {entry : ArgumentEntry} {id : Id Buffer} {buffer changed : Buffer}
    (housed : ∀ id ∈ start.pipeline.storageAt? entry.place, id.index < start.buffers.size)
    (found : argument.entry? entries = some entry) (admits : bench.pipeline.Admits entry argument)
    (there : (bench.equipped entry).pipeline.storageAt? entry.place = some id)
    (present : (bench.equipped entry).buffers.get? id = some buffer)
    (written : (entry.store argument).apply buffer = (.ok ⟨⟩, changed)) :
    Supplied start (placedAt entries (done ++ [argument]) · ≠ [])
      (writesAt entries (done ++ [argument])) ((bench.equipped entry).setBuffer id changed) := by
  have agree : entry.kind ≠ .podPushConstant → entry.size = argument.format.size :=
    fun plain => (admits entry.slot (ArgumentEntry.place_eq_some.mpr ⟨plain, rfl⟩)).1
  have equipped := supplied.equipped entry
    (fun slot located => (admits slot located).2)
    (fun unused => by rw [writesAt, not_not.mp unused, List.map_nil])
  have layers : buffer.IsBytes →
      changed = buffer.withBytes ((argument.write entry).onto buffer.bytes) := by
    intro isBytes
    rw [ArgumentEntry.apply_store_bytes agree isBytes] at written
    exact (congrArg Prod.snd written).symm
  have stored := equipped.written housed (.inr rfl) there present layers
  have used : (placedAt entries (done ++ [argument]) · ≠ []) =
      fun place => placedAt entries done place ≠ [] ∨ place = entry.place := by
    funext place
    rw [placedAt_concat found]
    split <;> simp [*]
  rw [used, funext (writesAt_concat found done)]
  exact stored

private theorem supplied_storeArguments {kernel : String} {entries : List ArgumentEntry}
    {arguments done : List ArgumentValue} {final : Workbench}
    (supplied : Supplied start (placedAt entries done · ≠ []) (writesAt entries done) bench)
    (housed : ∀ argument ∈ arguments, ∀ entry ∈ argument.entry? entries,
      ∀ id ∈ start.pipeline.storageAt? entry.place, id.index < start.buffers.size)
    (ran : (storeArguments kernel entries arguments).apply bench = (.ok ⟨⟩, final)) :
    Supplied start (placedAt entries (done ++ arguments) · ≠ [])
      (writesAt entries (done ++ arguments)) final := by
  induction arguments generalizing done bench with
  | nil =>
    cases ran
    rw [List.append_nil]
    exact supplied
  | cons argument rest ih =>
    obtain ⟨entry, id, buffer, changed, found, admits, there, present, written, ran⟩ :=
      storeArguments_cons_ok.mp ran
    have stored := supplied.concat (housed argument List.mem_cons_self entry found) found admits
      there present written
    have later := ih stored
      (fun other member => housed other (List.mem_cons_of_mem argument member)) ran
    rw [List.append_assoc] at later
    exact later

/-- A value that is stored in a buffer of a slot has the size that its entry says. -/
private def SizesAgree (entries : List ArgumentEntry) (arguments : List ArgumentValue) : Prop :=
  ∀ argument ∈ arguments, ∀ entry ∈ argument.entry? entries,
    entry.kind ≠ .podPushConstant → entry.size = argument.format.size

private theorem sizesAgree_of_storeArguments {kernel : String} {entries : List ArgumentEntry}
    {arguments : List ArgumentValue} {bench final : Workbench}
    (ran : (storeArguments kernel entries arguments).apply bench = (.ok ⟨⟩, final)) :
    SizesAgree entries arguments := by
  induction arguments generalizing bench with
  | nil => exact nofun
  | cons argument rest ih =>
    obtain ⟨entry, id, buffer, changed, found, admits, -, -, -, ran⟩ :=
      storeArguments_cons_ok.mp ran
    refine List.forall_mem_cons.mpr ⟨fun other present plain => ?_, ih ran⟩
    cases found.symm.trans present
    exact (admits entry.slot (ArgumentEntry.place_eq_some.mpr ⟨plain, rfl⟩)).1

theorem apply_makeArgumentBuffers (bench : Workbench) :
    makeArgumentBuffers.apply bench =
      match bench.pipeline.kernel?, bench.pipeline.kernelArguments? with
      | some kernel, some entries =>
        (storeArguments kernel.entryPoint entries bench.pipeline.argumentValues).apply bench
      | _, _ => (.ok ⟨⟩, bench) := by
  rw [makeArgumentBuffers, Edit.apply_bind_of_ok (Edit.apply_get bench)]
  dsimp only
  cases bench.pipeline.kernel? <;> cases bench.pipeline.kernelArguments? <;> rfl

theorem outline_makeArgumentBuffers (bench : Workbench) :
    (makeArgumentBuffers.apply bench).2.pipeline.outline = bench.pipeline.outline :=
  maintains_makeArgumentBuffers (enduring_outline (· = bench.pipeline.outline)).toLasting bench rfl

theorem makeArgumentBuffers_ok {after : Workbench}
    (made : makeArgumentBuffers.apply bench = (.ok ⟨⟩, after)) :
    bench.pipeline.argumentEntries = [] ∧ after = bench ∨
      ∃ kernel, (storeArguments kernel bench.pipeline.argumentEntries
        bench.pipeline.argumentValues).apply bench = (.ok ⟨⟩, after) := by
  rw [apply_makeArgumentBuffers] at made
  split at made
  · rename_i kernel entries present known
    refine .inr ⟨kernel.entryPoint, ?_⟩
    rw [Pipeline.argumentEntries, known]
    exact made
  · rename_i unknown
    cases known : bench.pipeline.kernelArguments? with
    | none =>
      cases made
      exact .inl ⟨by rw [Pipeline.argumentEntries, known]; rfl, rfl⟩
    | some entries =>
      obtain ⟨kernel, present, -⟩ := Option.bind_eq_some_iff.mp known
      exact absurd known (unknown kernel entries present)

private theorem sizesAgree_of_makeArgumentBuffers {after : Workbench}
    (made : makeArgumentBuffers.apply bench = (.ok ⟨⟩, after)) :
    SizesAgree bench.pipeline.argumentEntries bench.pipeline.argumentValues := by
  rcases makeArgumentBuffers_ok made with ⟨unknown, -⟩ | ⟨kernel, ran⟩
  · rw [unknown]
    exact fun argument given entry found => nomatch found
  · exact sizesAgree_of_storeArguments ran

theorem supplied_makeArgumentBuffers {after : Workbench}
    (housed : ∀ argument ∈ bench.pipeline.argumentValues,
      ∀ entry ∈ argument.entry? bench.pipeline.argumentEntries,
      ∀ id ∈ bench.pipeline.storageAt? entry.place, id.index < bench.buffers.size)
    (made : makeArgumentBuffers.apply bench = (.ok ⟨⟩, after)) :
    Supplied bench (bench.pipeline.valuesAt · ≠ [])
      (writesAt bench.pipeline.argumentEntries bench.pipeline.argumentValues) after := by
  have unused (entries : List ArgumentEntry) (arguments : List ArgumentValue)
      (none : ∀ place, placedAt entries arguments place = []) :
      Supplied bench (placedAt entries arguments · ≠ []) (writesAt entries arguments) bench := by
    have used : (placedAt entries arguments · ≠ []) = fun _ => False := by
      funext place
      exact eq_false fun used => used (none place)
    have writes : writesAt entries arguments = fun _ => [] := by
      funext place
      rw [writesAt, none place, List.map_nil]
    rw [used, writes]
    exact supplied_start bench
  rcases makeArgumentBuffers_ok made with ⟨unknown, rfl⟩ | ⟨kernel, ran⟩
  · refine unused _ _ fun place => ?_
    rw [unknown]
    exact List.filterMap_eq_nil_iff.mpr fun _ _ => rfl
  · have started := unused bench.pipeline.argumentEntries [] fun _ => rfl
    exact supplied_storeArguments started housed ran

/-- A buffer of bytes that holds values: it reaches as far as the farthest of them, and each byte is
that of the last value that covers it, or zero where none does. -/
structure HoldsValues (buffer : Buffer) (placed : List (ArgumentEntry × ArgumentValue)) : Prop where
  isBytes : buffer.IsBytes
  reached : ∀ value ∈ placed, value.1.offset + value.1.size ≤ buffer.bytes.size
  farthest : ∃ value ∈ placed, buffer.bytes.size = value.1.offset + value.1.size
  bytes : ∀ index < buffer.bytes.size, buffer.bytes[index]? =
    some (((placed.filterMap fun value => (value.2.write value.1).byte? index).getLast?).getD 0)

private theorem holdsValues_layered {entries : List ArgumentEntry} {arguments : List ArgumentValue}
    {slot : BindingSlot} (used : placedAt entries arguments (some slot) ≠ [])
    (agree : SizesAgree entries arguments)
    {buffer : Buffer} (isBytes : buffer.IsBytes)
    (contents : buffer.bytes = layered (writesAt entries arguments (some slot))) :
    HoldsValues buffer (placedAt entries arguments (some slot)) := by
  have reach : ∀ value ∈ placedAt entries arguments (some slot),
      (value.2.write value.1).reach = value.1.offset + value.1.size := by
    rintro ⟨entry, argument⟩ member
    obtain ⟨given, found, located⟩ := mem_placedAt.mp member
    have plain := (ArgumentEntry.place_eq_some.mp located).1
    rw [argument.reach_write entry, agree argument given entry found plain]
  refine ⟨isBytes, fun value member => ?_, ?_, fun index bound => ?_⟩
  · rw [contents, ← reach value member]
    exact size_layered_le.mp (Nat.le_refl _) _ (List.mem_map_of_mem member)
  · obtain ⟨write, member, size⟩ := size_layered_mem (List.map_eq_nil_iff.not.mpr used)
    obtain ⟨value, placed, rfl⟩ := List.mem_map.mp member
    exact ⟨value, placed, (congrArg Array.size contents).trans (size.trans (reach value placed))⟩
  · rw [contents] at bound ⊢
    rw [getElem?_layered _ bound, writesAt, List.filterMap_map]
    rfl

/-- Storing plain data makes exactly one buffer for each slot in use, which is bound there and holds
the values of the slot; all other buffers stay as they were. -/
theorem makeArgumentBuffers_contents {bench after : Workbench}
    (unstored : bench.pipeline.argumentBuffers = [])
    (plain : ∀ argument ∈ bench.pipeline.argumentValues,
      ∀ entry ∈ argument.entry? bench.pipeline.argumentEntries,
        entry.kind = .pod ∨ entry.kind = .podUbo)
    (made : makeArgumentBuffers.apply bench = (.ok ⟨⟩, after)) :
    (∀ id, id.index < bench.buffers.size → after.buffers.get? id = bench.buffers.get? id) ∧
      (∀ id, bench.buffers.size ≤ id.index → id.index < after.buffers.size →
        ∃! slot, bench.pipeline.valuesAt (some slot) ≠ [] ∧
          after.pipeline.bufferAt? slot = some id) ∧
      ∀ slot, bench.pipeline.valuesAt (some slot) ≠ [] →
        ∃ id buffer, bench.buffers.size ≤ id.index ∧ after.pipeline.bufferAt? slot = some id ∧
          after.buffers.get? id = some buffer ∧
          HoldsValues buffer (bench.pipeline.valuesAt (some slot)) := by
  have slotted : ∀ argument ∈ bench.pipeline.argumentValues,
      ∀ entry ∈ argument.entry? bench.pipeline.argumentEntries,
        ∃ slot, entry.place = some slot := by
    intro argument given entry found
    refine ⟨entry.slot, ArgumentEntry.place_eq_some.mpr ⟨fun push => ?_, rfl⟩⟩
    rcases plain argument given entry found with kind | kind <;> cases push.symm.trans kind
  have free (slot : BindingSlot) : bench.pipeline.storageAt? (some slot) = none := by
    rw [Pipeline.storageAt?, unstored]
    rfl
  have unpushed : bench.pipeline.valuesAt none = [] := by
    refine List.eq_nil_iff_forall_not_mem.mpr ?_
    rintro ⟨entry, argument⟩ member
    obtain ⟨given, found, located⟩ := mem_placedAt.mp member
    obtain ⟨slot, same⟩ := slotted argument given entry found
    cases located.symm.trans same
  have supplied := supplied_makeArgumentBuffers (fun argument given entry found id there => by
    obtain ⟨slot, located⟩ := slotted argument given entry found
    rw [located, free slot] at there
    cases there) made
  refine ⟨fun id before => supplied.older id before fun place used there => ?_,
    fun id fresh within => ?_, fun slot used => ?_⟩
  · cases place with
    | none => exact used unpushed
    | some slot =>
      rw [free slot] at there
      cases there
  · obtain ⟨place, missing, found⟩ := supplied.owned id fresh within
    have used := (supplied.used_iff place missing).mpr ⟨id, found⟩
    cases place with
    | none => exact absurd unpushed used
    | some slot =>
      have bound := (supplied.stored _ id missing found).bound slot rfl
      refine ⟨slot, ⟨used, bound⟩, ?_⟩
      rintro other ⟨usedOther, boundOther⟩
      obtain ⟨stored, foundOther⟩ := (supplied.used_iff _ (free other)).mp usedOther
      have placed := (supplied.stored _ stored (free other) foundOther).bound other rfl
      rw [boundOther] at placed
      cases placed
      exact Option.some.inj (supplied.apart _ _ id (free other) missing foundOther found)
  · obtain ⟨id, found⟩ := (supplied.used_iff _ (free slot)).mp used
    obtain ⟨fresh, bound, buffer, present, isBytes, contents⟩ :=
      supplied.stored _ id (free slot) found
    exact ⟨id, buffer, fresh, bound slot rfl, present,
      holdsValues_layered used (sizesAgree_of_makeArgumentBuffers made) isBytes contents⟩

/-- Of two values that overlap at a slot the one that is stored last covers the other. -/
theorem makeArgumentBuffers_contents_overlap :
    let scale : ArgumentEntry := { name := "scale", kind := .pod, size := 2 }
    let shift : ArgumentEntry := { name := "shift", kind := .pod, offset := 1, size := 2 }
    let kernel : AttachedShader :=
      { shader := ⟨0⟩
        name := "double"
        format := .openClC
        stage := .compute
        argumentMap := [("main", [scale, shift])] }
    let short : Format := .ofType (.number { mode := .unsignedInt, bits := 16 })
    let first : ArgumentValue := ⟨"scale", 0, short, .integer 0x0201⟩
    let last : ArgumentValue := ⟨"shift", 1, short, .integer 0x0403⟩
    let work : Pipeline :=
      { name := "work"
        kind := .compute
        shaders := [kernel]
        argumentValues := [first, last] }
    let outcome := makeArgumentBuffers.apply { pipeline := work }
    outcome.1 = .ok ⟨⟩ ∧ ∃ id buffer, outcome.2.pipeline.bufferAt? {} = some id ∧
      outcome.2.buffers.get? id = some buffer ∧ buffer.bytes[0]? = some 1 ∧
      buffer.bytes[1]? = some 3 ∧ buffer.bytes[2]? = some 4 := by
  intro scale shift kernel short first last work outcome
  have done : outcome.1 = .ok ⟨⟩ := by decide +revert +kernel
  have plain : ∀ argument ∈ work.argumentValues, ∀ entry ∈ argument.entry? work.argumentEntries,
      entry.kind = .pod ∨ entry.kind = .podUbo := by
    clear done
    decide +revert +kernel
  have placed : work.valuesAt (some {}) = [(scale, first), (shift, last)] := by
    clear done plain
    decide +revert +kernel
  let covering (index : Nat) := (([(scale, first), (shift, last)].filterMap
    fun value => (value.2.write value.1).byte? index).getLast?).getD 0
  have covered : covering 0 = 1 ∧ covering 1 = 3 ∧ covering 2 = 4 := by
    clear done plain placed
    decide +revert +kernel
  have ran : outcome = (.ok ⟨⟩, outcome.2) := Prod.ext done rfl
  obtain ⟨-, -, stored⟩ := makeArgumentBuffers_contents rfl plain ran
  have used : work.valuesAt (some {}) ≠ [] := by
    rw [placed]
    exact List.cons_ne_nil _ _
  obtain ⟨id, buffer, -, bound, present, holds⟩ := stored {} used
  dsimp only at holds
  rw [placed] at holds
  have size : 3 ≤ buffer.bytes.size :=
    holds.reached (shift, last) (List.mem_cons_of_mem _ List.mem_cons_self)
  refine ⟨done, id, buffer, bound, present, ?_, ?_, ?_⟩
  · exact (holds.bytes 0 (by omega)).trans (congrArg some covered.1)
  · exact (holds.bytes 1 (by omega)).trans (congrArg some covered.2.1)
  · exact (holds.bytes 2 (by omega)).trans (congrArg some covered.2.2)

end Workbench

end GpuScript
