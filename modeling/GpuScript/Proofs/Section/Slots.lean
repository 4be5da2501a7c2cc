import Mathlib.Data.Finset.Card
import GpuScript.Proofs.Section.Steps
import GpuScript.Section.Run

namespace GpuScript

namespace Command

/-- The slot of a storage or uniform buffer that a command is about, and the buffer it names. -/
def slotBuffer? : Command → Option (BindingSlot × Id Buffer)
  | .buffer _ write =>
    match write.role with
    | .ssbo | .uniform => some (write.slot, write.buffer)
    | _ => none
  | .probeStorage _ check => some (check.slot, check.buffer)
  | _ => none

/-- The slot that a command makes a buffer for if there is none. -/
def boundSlot? : Command → Option BindingSlot
  | .buffer _ write =>
    match write.role with
    | .ssbo | .uniform => some write.slot
    | _ => none
  | _ => none

/-- The command has made a buffer for push constants. -/
def isPushConstant : Command → Bool
  | .buffer _ write => write.role == .pushConstant
  | _ => false

end Command

namespace Pipeline

private theorem bufferAt?_clearBuffers (pipeline : Pipeline) (slot other : BindingSlot) :
    (pipeline.clearBuffers slot).bufferAt? other =
      if other = slot then none else pipeline.bufferAt? other := by
  simp only [bufferAt?, clearBuffers, List.find?_filter]
  by_cases same : other = slot
  · subst same
    simp
  · rw [if_neg same]
    congr 2
    funext binding
    by_cases here : binding.slot = other <;> simp [here, same]

theorem bufferAt?_addBuffer (pipeline : Pipeline) (binding : BufferBinding) (slot : BindingSlot) :
    (pipeline.addBuffer binding).bufferAt? slot =
      (pipeline.bufferAt? slot).or (if binding.slot = slot then some binding.buffer else none) := by
  rw [bufferAt?, addBuffer, List.find?_append, Option.map_or]
  by_cases same : binding.slot = slot <;> simp [bufferAt?, same]

end Pipeline

namespace Script

/-- A slot that is cleared first has the buffer that is bound at it then, and no other slot is
touched. -/
theorem bufferAt?_bind {script : Script} {id : Id Pipeline} {binding : BufferBinding}
    (present : (script.pipelines.get? id).isSome) (slot : BindingSlot) :
    (script.mapPipeline id fun pipeline =>
        (pipeline.clearBuffers binding.slot).addBuffer binding).bufferAt? id slot =
      if slot = binding.slot then some binding.buffer else script.bufferAt? id slot := by
  obtain ⟨pipeline, found⟩ := Option.isSome_iff_exists.mp present
  rw [bufferAt?, get?_mapPipeline, if_pos rfl, found, Option.map_some, Option.bind_some,
    Pipeline.bufferAt?_addBuffer, Pipeline.bufferAt?_clearBuffers, bufferAt?, found,
    Option.bind_some]
  by_cases same : slot = binding.slot
  · subst same
    simp
  · simp [same, Ne.symm same]

def freeSlots (script : Script) (id : Id Pipeline) (commands : List Command) :
    Finset BindingSlot :=
  (commands.filterMap Command.boundSlot?).toFinset.filter fun slot =>
    script.bufferAt? id slot = none

theorem mem_freeSlots {script : Script} {id : Id Pipeline} {commands : List Command}
    {slot : BindingSlot} : slot ∈ script.freeSlots id commands ↔
      slot ∈ commands.filterMap Command.boundSlot? ∧ script.bufferAt? id slot = none := by
  rw [freeSlots, Finset.mem_filter, List.mem_toFinset]

/-- One script has become another with its pipelines and the number of its buffers as they were. -/
structure SamePlaces (before after : Script) : Prop where
  pipelines : after.pipelines = before.pipelines
  size : after.buffers.store.size = before.buffers.store.size

theorem SamePlaces.refl (script : Script) : SamePlaces script script := ⟨rfl, rfl⟩

theorem SamePlaces.trans {before between after : Script} (left : SamePlaces before between)
    (right : SamePlaces between after) : SamePlaces before after :=
  ⟨right.pipelines.trans left.pipelines, right.size.trans left.size⟩

theorem samePlaces_setBuffer (script : Script) (id : Id Buffer) (buffer : Buffer) :
    SamePlaces script (script.setBuffer id buffer) :=
  ⟨rfl, Store.size_modify _ _ _⟩

/-- One script has become another through commands on the slots of a pipeline: slots keep their
buffers, those without one get it with the first command on them, the commands name the buffers at
their slots, and no more buffers are made. -/
structure Occupies (id : Id Pipeline) (commands : List Command) (before after : Script) : Prop where
  kept : ∀ slot buffer, before.bufferAt? id slot = some buffer →
    after.bufferAt? id slot = some buffer
  free : ∀ slot, after.bufferAt? id slot = none ↔
    before.bufferAt? id slot = none ∧ slot ∉ commands.filterMap Command.boundSlot?
  named : ∀ command ∈ commands, ∀ slot buffer, command.slotBuffer? = some (slot, buffer) →
    after.bufferAt? id slot = some buffer
  size : after.buffers.store.size = before.buffers.store.size +
    (before.freeSlots id commands).card + commands.countP Command.isPushConstant

variable {id : Id Pipeline} {before between after : Script} {earlier later commands : List Command}

theorem SamePlaces.occupies (same : SamePlaces before after) : Occupies id [] before after := by
  have slots (slot : BindingSlot) : after.bufferAt? id slot = before.bufferAt? id slot := by
    rw [bufferAt?, same.pipelines]
    rfl
  refine ⟨fun slot buffer bound => (slots slot).trans bound, fun slot => ?_,
    fun _ member => absurd member List.not_mem_nil, same.size⟩
  rw [slots]
  simp

/-- The slots that later commands find without a buffer are those that the earlier ones have left
so. -/
theorem Occupies.card_freeSlots (left : Occupies id earlier before between) (later : List Command) :
    (before.freeSlots id (earlier ++ later)).card =
      (before.freeSlots id earlier).card + (between.freeSlots id later).card := by
  have union : before.freeSlots id (earlier ++ later) =
      before.freeSlots id earlier ∪ between.freeSlots id later := by
    ext slot
    rw [Finset.mem_union, mem_freeSlots, mem_freeSlots, mem_freeSlots, left.free,
      List.filterMap_append, List.mem_append]
    tauto
  have disjoint : Disjoint (before.freeSlots id earlier) (between.freeSlots id later) := by
    rw [Finset.disjoint_left]
    intro slot old new
    have untouched := ((left.free slot).mp (mem_freeSlots.mp new).2).2
    exact untouched (mem_freeSlots.mp old).1
  rw [union, Finset.card_union_of_disjoint disjoint]

theorem Occupies.append (left : Occupies id earlier before between)
    (right : Occupies id later between after) : Occupies id (earlier ++ later) before after where
  kept slot buffer bound := right.kept slot buffer (left.kept slot buffer bound)
  free slot := by
    rw [right.free, left.free, List.filterMap_append, List.mem_append, not_or, and_assoc]
  named command member slot buffer names := by
    rcases List.mem_append.mp member with old | new
    · exact right.kept slot buffer (left.named command old slot buffer names)
    · exact right.named command new slot buffer names
  size := by
    have first := left.size
    have next := right.size
    rw [left.card_freeSlots, List.countP_append]
    omega

/-- Edits of buffers behind commands on slots. -/
theorem Occupies.places (occupies : Occupies id commands before between)
    (same : SamePlaces between after) : Occupies id commands before after :=
  List.append_nil commands ▸ occupies.append same.occupies

/-- A command that names the buffer at its slot, or none, and binds no other. -/
theorem occupies_bound {command : Command}
    (named : ∀ slot buffer, command.slotBuffer? = some (slot, buffer) →
      before.bufferAt? id slot = some buffer)
    (taken : ∀ slot, command.boundSlot? = some slot → before.bufferAt? id slot ≠ none)
    (noPush : command.isPushConstant = false) : Occupies id [command] before before := by
  have free (slot : BindingSlot) (none : before.bufferAt? id slot = none) :
      slot ∉ [command].filterMap Command.boundSlot? := by
    intro member
    obtain ⟨other, here, binds⟩ := List.mem_filterMap.mp member
    rw [List.mem_singleton] at here
    exact taken slot (here ▸ binds) none
  refine ⟨fun _ _ bound => bound, fun slot => ⟨fun none => ⟨none, free slot none⟩, And.left⟩,
    fun other member slot buffer names => ?_, ?_⟩
  · rw [List.mem_singleton] at member
    exact named slot buffer (member ▸ names)
  · have none : before.freeSlots id [command] = ∅ :=
      Finset.eq_empty_of_forall_notMem fun slot member =>
        free slot (mem_freeSlots.mp member).2 (mem_freeSlots.mp member).1
    simp [none, noPush]

private theorem occupies_fresh {command : Command} {binding : BufferBinding} (buffer : Buffer)
    (present : (before.pipelines.get? id).isSome)
    (free : before.bufferAt? id binding.slot = none)
    (names : command.slotBuffer? = some (binding.slot, binding.buffer))
    (binds : command.boundSlot? = some binding.slot) (noPush : command.isPushConstant = false) :
    Occupies id [command] before ((before.pushBuffer buffer).mapPipeline id fun pipeline =>
      (pipeline.clearBuffers binding.slot).addBuffer binding) := by
  have slots := @bufferAt?_bind (before.pushBuffer buffer) id binding present
  have bound : [command].filterMap Command.boundSlot? = [binding.slot] := by simp [binds]
  refine ⟨fun slot other found => ?_, fun slot => ?_, fun other member slot buffer found => ?_, ?_⟩
  · rw [slots, if_neg fun same => ?_]
    · exact found
    · rw [same, free] at found
      cases found
  · rw [slots, bound, List.mem_singleton]
    by_cases same : slot = binding.slot
    · simp [same]
    · rw [if_neg same]
      exact (and_iff_left same).symm
  · rw [List.mem_singleton] at member
    rw [member, names] at found
    obtain ⟨rfl, rfl⟩ := Prod.mk.inj (Option.some.inj found)
    rw [slots, if_pos rfl]
  · have one : before.freeSlots id [command] = {binding.slot} := by
      ext slot
      rw [mem_freeSlots, bound, List.mem_singleton, Finset.mem_singleton, and_iff_left_iff_imp]
      rintro rfl
      exact free
    rw [one, Finset.card_singleton, List.countP_singleton, noPush]
    exact Store.size_push _ _

theorem occupies_pushed {command : Command} (buffer : Buffer) (names : command.slotBuffer? = none)
    (binds : command.boundSlot? = none) (push : command.isPushConstant = true) :
    Occupies id [command] before (before.pushBuffer buffer) := by
  have bound : [command].filterMap Command.boundSlot? = [] := by simp [binds]
  refine ⟨fun _ _ found => found, fun slot => ?_, fun other member slot buffer found => ?_, ?_⟩
  · rw [bound]
    exact (and_iff_left List.not_mem_nil).symm
  · rw [List.mem_singleton] at member
    rw [member, names] at found
    cases found
  · rw [freeSlots, bound, List.countP_singleton, push]
    exact Store.size_push _ _

end Script

namespace Session

variable {session final : Session} {id : Id Buffer} {format : Format}

theorem onBuffer_places {Result : Type} {operation : Edit Buffer Result} {result : Result}
    (done : (onBuffer id operation).apply session = (.ok result, final)) :
    ∃ script, final = { session with script } ∧ session.script.SamePlaces script := by
  obtain ⟨buffer, after, -, -, rfl⟩ := onBuffer_ok done
  exact ⟨_, rfl, Script.samePlaces_setBuffer ..⟩

theorem agreeOnFormat_places {rule : String}
    (done : (agreeOnFormat id format rule).apply session = (.ok ⟨⟩, final)) :
    ∃ script, final = { session with script } ∧ session.script.SamePlaces script := by
  obtain ⟨buffer, -, ⟨-, rfl⟩ | ⟨-, rfl⟩⟩ := agreeOnFormat_parts done
  · exact ⟨_, rfl, .refl _⟩
  · exact ⟨_, rfl, (Script.samePlaces_setBuffer ..).trans ⟨rfl, rfl⟩⟩

theorem fill_places {rules : Reader.OffsetRules} {command : String} {written : Nat × List Value}
    (done : (fill rules command id format).apply session = (.ok written, final)) :
    ∃ words script, final = { session with words, script } ∧
      session.script.SamePlaces script := by
  obtain ⟨agreed, between, words, agreeing, -, -, recording⟩ := fill_parts done
  obtain ⟨script, rfl, agreed⟩ := agreeOnFormat_places agreeing
  obtain ⟨script, rfl, sized⟩ := onBuffer_places recording
  exact ⟨words, script, rfl, agreed.trans sized⟩

theorem storageSize_places (done : (storageSize id).apply session = (.ok ⟨⟩, final)) :
    ∃ words script, final = { session with words, script } ∧
      session.script.SamePlaces script := by
  obtain ⟨-, -, buffer, sized, words, -, -, ⟨-, rfl⟩ | ⟨-, rfl⟩⟩ := storageSize_parts done
  · exact ⟨words, _, rfl, Script.samePlaces_setBuffer ..⟩
  · refine ⟨words, _, rfl, (Script.samePlaces_setBuffer _ id sized).trans ?_⟩
    exact (Script.samePlaces_setBuffer ..).trans ⟨rfl, rfl⟩

/-- A command occupies the slot that its buffer was found or made at. -/
theorem bufferAt_occupies {slot : BindingSlot} {kind : BufferKind} {command : Command}
    (done : (bufferAt slot kind).apply session = (.ok id, final))
    (names : command.slotBuffer? = some (slot, id)) (binds : command.boundSlot? = some slot)
    (noPush : command.isPushConstant = false) :
    ∃ script, final = { session with script } ∧
      Script.Occupies session.pipelineId [command] session.script script := by
  obtain ⟨bound, rfl⟩ | ⟨free, present, rfl, rfl⟩ := bufferAt_parts done
  · refine ⟨_, rfl, Script.occupies_bound (fun other buffer found => ?_) (fun other found => ?_)
      noPush⟩
    · obtain ⟨rfl, rfl⟩ := Prod.mk.inj (Option.some.inj (names.symm.trans found))
      exact bound
    · obtain rfl := Option.some.inj (binds.symm.trans found)
      rw [bound]
      exact Option.some_ne_none _
  · let binding : BufferBinding :=
      { buffer := session.script.buffers.store.nextId, kind, slot }
    have occupies : Script.Occupies _ _ _ _ :=
      @Script.occupies_fresh _ _ command binding session.freshBuffer present free names binds noPush
    exact ⟨_, rfl, occupies⟩

/-- A session has become another that has recorded commands on the slots of its pipeline. -/
private structure Occupied (before after : Session) : Prop where
  pipelineId : after.pipelineId = before.pipelineId
  occupies : ∃ commands, after.commands = before.commands ++ commands ∧
    Script.Occupies before.pipelineId commands before.script after.script

private theorem Occupied.nothing (pipelineId : final.pipelineId = session.pipelineId)
    (script : final.script = session.script) (commands : final.commands = session.commands) :
    Occupied session final :=
  ⟨pipelineId, [], commands.trans (List.append_nil _).symm,
    script ▸ (Script.SamePlaces.refl _).occupies⟩

private theorem Occupied.of_words {words : Words}
    (occupied : Occupied { session with words } final) :
    Occupied session final := ⟨occupied.pipelineId, occupied.occupies⟩

private theorem Occupied.trans {first next last : Session} (left : Occupied first next)
    (right : Occupied next last) : Occupied first last := by
  obtain ⟨earlier, recorded, occupies⟩ := left.occupies
  obtain ⟨later, further, more⟩ := right.occupies
  rw [left.pipelineId] at more
  refine ⟨right.pipelineId.trans left.pipelineId, earlier ++ later, ?_, occupies.append more⟩
  rw [further, recorded, List.append_assoc]

private theorem Occupied.aside {command : Command} (names : command.slotBuffer? = none)
    (binds : command.boundSlot? = none) (noPush : command.isPushConstant = false)
    (pipelineId : final.pipelineId = session.pipelineId)
    (script : final.script = session.script)
    (commands : final.commands = session.commands ++ [command]) : Occupied session final := by
  refine ⟨pipelineId, [command], commands, script ▸ Script.occupies_bound ?_ ?_ noPush⟩
  · intro slot buffer found
    rw [names] at found
    cases found
  · intro slot found
    rw [binds] at found
    cases found

/-- A command that has its buffer found or made at a slot and then edits buffers only. -/
private theorem Occupied.bound {slot : BindingSlot} {kind : BufferKind} {words : Words}
    {command : Command}
    {bound filled : Session}
    (binding : (bufferAt slot kind).apply { session with words } = (.ok id, bound))
    (edits : ∃ words script, filled = { bound with words, script } ∧
      bound.script.SamePlaces script)
    (names : command.slotBuffer? = some (slot, id)) (binds : command.boundSlot? = some slot)
    (noPush : command.isPushConstant = false) : Occupied session (filled.recorded command) := by
  obtain ⟨script, rfl, occupies⟩ := bufferAt_occupies binding names binds noPush
  obtain ⟨left, edited, rfl, places⟩ := edits
  exact ⟨rfl, [command], rfl, occupies.places places⟩

private theorem occupied_storage (done : storage.apply session = (.ok ⟨⟩, final)) :
    Occupied session final := by
  obtain ⟨-, slot, words, buffer, bound, filled, write, -, binding, body, rfl⟩ :=
    storage_parts done
  rcases body with ⟨-, written, writing, rfl⟩ | ⟨-, sizing, rfl⟩
  · obtain ⟨-, format, -, filling⟩ := storageData_parts writing
    obtain ⟨left, script, rfl, places⟩ := fill_places filling
    exact .bound binding ⟨left, script, rfl, places⟩ rfl rfl rfl
  · exact .bound binding (storageSize_places sizing) rfl rfl rfl

private theorem occupied_uniformBuffer {head : CommandHead}
    (done : (uniformBuffer head).apply session = (.ok ⟨⟩, final)) : Occupied session final := by
  obtain ⟨-, slot, words, buffer, bound, format, written, filled, -, -, binding, -, filling, rfl⟩ :=
    uniformBuffer_parts done
  exact .bound binding (fill_places filling) rfl rfl rfl

private theorem occupied_pushConstants {head : CommandHead} {typeName : String}
    (done : (pushConstants head typeName).apply session = (.ok ⟨⟩, final)) :
    Occupied session final := by
  obtain ⟨buffer, made, format, written, filled, held, making, -, filling, holding, rfl⟩ :=
    pushConstants_parts done
  obtain ⟨rfl, rfl⟩ := makeBuffer_parts making
  obtain ⟨words, script, rfl, written⟩ := fill_places filling
  obtain ⟨script, rfl, held⟩ := onBuffer_places holding
  refine ⟨rfl, [_], rfl, (Script.occupies_pushed session.freshBuffer ?_ ?_ ?_).places
    (written.trans held)⟩ <;> rfl

private theorem occupied_probeStorage (done : probeStorage.apply session = (.ok ⟨⟩, final)) :
    Occupied session final := by
  obtain ⟨-, -, format, slot, slotted, buffer, agreed, comparator, values, between, words, -, -,
    found, agreeing, -, -, -, rfl⟩ := probeStorage_parts done
  obtain ⟨script, rfl, places⟩ := agreeOnFormat_places agreeing
  refine ⟨rfl, [_], rfl, (Script.occupies_bound (fun other bound names => ?_)
    (fun _ binds => by cases binds) rfl).places (places.trans ⟨rfl, rfl⟩)⟩
  obtain ⟨rfl, rfl⟩ := Prod.mk.inj (Option.some.inj names)
  exact found

/-- Each command occupies the slot that it is about. -/
private theorem occupied_of_performed {name : String} (performed : Performed session name final) :
    Occupied session final := by
  cases performed with
  | @clear _ command cleared =>
    cases command <;> first | exact .aside rfl rfl rfl rfl rfl rfl | cases cleared
  | storage done => exact occupied_storage done
  | uniformBuffer _ _ done => exact (occupied_uniformBuffer done).of_words
  | pushConstants _ _ done => exact (occupied_pushConstants done).of_words
  | storedProbe position _ _ done =>
    obtain ⟨words, rfl⟩ := position.exists_words
    exact Occupied.of_words (show Occupied { session with words := words.tail } final from
      occupied_probeStorage done)
  | tolerance | setting => exact .nothing rfl rfl rfl
  | rectangle | arrays | patch | probe | compute | computeEntry | stage | tessellation =>
    exact .aside rfl rfl rfl rfl rfl rfl

/-- A run of statements occupies the slots that its commands are about. -/
private theorem occupied_of_executeAll {statements : List Statement}
    (done : (executeAll statements).apply session = (.ok ⟨⟩, final)) : Occupied session final :=
  executeAll_chain Occupied (fun _ => .nothing rfl rfl rfl) Occupied.trans
    (fun _ _ _ _ ran => (occupied_of_performed (performed_of_execute ran).2).of_words) done

end Session

namespace Script

open Session

private theorem bufferAt?_withState (script : Script) (id other : Id Pipeline) (state : RasterState)
    (slot : BindingSlot) :
    (script.withState id state).bufferAt? other slot = script.bufferAt? other slot := by
  rw [bufferAt?, withState, get?_mapPipeline, bufferAt?]
  split
  · rw [Option.bind_map]
    rfl
  · rfl

/-- After a section that is read to its end each command on a storage or uniform buffer names the
buffer at its slot, so that two on one slot name one buffer. A slot that had a buffer has kept it,
and a buffer was made for each other slot that a command but a probe is about and for each command
on push constants. -/
theorem readSection_slots {script : Script} {id : Id Pipeline} {line : Nat} {text : String}
    (done : (script.readSection id line text).1 = .ok ⟨⟩) :
    let final := (script.readSection id line text).2
    (∀ command ∈ final.commands, ∀ slot buffer, command.slotBuffer? = some (slot, buffer) →
        final.script.bufferAt? id slot = some buffer) ∧
      (∀ first ∈ final.commands, ∀ second ∈ final.commands, ∀ slot buffer other,
        first.slotBuffer? = some (slot, buffer) → second.slotBuffer? = some (slot, other) →
          buffer = other) ∧
      (∀ slot buffer, script.bufferAt? id slot = some buffer →
        final.script.bufferAt? id slot = some buffer) ∧
      final.script.buffers.store.size = script.buffers.store.size +
        (script.freeSlots id final.commands).card +
        final.commands.countP Command.isPushConstant := by
  intro final
  obtain ⟨reached, ran, left⟩ := readSection_ok done
  obtain ⟨-, commands, recorded, occupies⟩ := occupied_of_executeAll ran
  have all : final.commands = commands := by
    rw [show final = _ from left]
    exact recorded
  have slots (slot : BindingSlot) :
      final.script.bufferAt? id slot = reached.script.bufferAt? id slot := by
    rw [show final = _ from left]
    exact bufferAt?_withState ..
  have size : final.script.buffers.store.size = reached.script.buffers.store.size := by
    rw [show final = _ from left]
    rfl
  have named : ∀ command ∈ final.commands, ∀ slot buffer,
      command.slotBuffer? = some (slot, buffer) →
        final.script.bufferAt? id slot = some buffer := by
    intro command member slot buffer names
    rw [slots]
    exact occupies.named command (all ▸ member) slot buffer names
  refine ⟨named, fun first here second there slot buffer other names also => ?_,
    fun slot buffer bound => ?_, ?_⟩
  · have firstBound := named first here slot buffer names
    exact Option.some.inj (firstBound.symm.trans (named second there slot other also))
  · rw [slots]
    exact occupies.kept slot buffer bound
  · rw [size, all]
    exact occupies.size

/-- Two commands on one slot and one on push constants make two buffers. -/
theorem readSection_slots_two :
    let script := SectionTarget.compute.script
    let text := "ssbo 0 16\nssbo 0 subdata float 0 1.0\nuniform float 0 2.0\n"
    let final := (script.readSection ⟨0⟩ 1 text).2
    (script.readSection ⟨0⟩ 1 text).1 = .ok ⟨⟩ ∧
      final.script.bufferAt? ⟨0⟩ ⟨0, 0⟩ = some ⟨0⟩ ∧ final.script.buffers.store.size = 2 := by
  intro script text final
  have done : (script.readSection ⟨0⟩ 1 text).1 = .ok ⟨⟩ := by decide +kernel
  obtain ⟨named, -, -, size⟩ := readSection_slots done
  have told : ∃ command ∈ final.commands, command.slotBuffer? = some (⟨0, 0⟩, ⟨0⟩) := by
    decide +kernel
  have slots : (script.freeSlots ⟨0⟩ final.commands).card = 1 := by decide +kernel
  have pushed : final.commands.countP Command.isPushConstant = 1 := by decide +kernel
  obtain ⟨command, member, names⟩ := told
  refine ⟨done, named command member _ _ names, size.trans ?_⟩
  rw [slots, pushed]
  rfl

end Script

end GpuScript
