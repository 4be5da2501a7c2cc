import GpuScript.Proofs.Pipeline.Storage
import GpuScript.Proofs.Store

namespace GpuScript

namespace Store

variable {Item : Type}

theorem set_set (store : Store Item) (id : Id Item) (first next : Item) :
    (store.set id first).set id next = store.set id next :=
  modify_modify store id (fun _ => first) (fun _ => next)

end Store

namespace ArgumentEntry

def place (entry : ArgumentEntry) : Option BindingSlot :=
  if entry.kind = .podPushConstant then none else some entry.slot

theorem place_eq_none {entry : ArgumentEntry} :
    entry.place = none ↔ entry.kind = .podPushConstant := by
  unfold place
  split <;> simp [*]

theorem place_eq_some {entry : ArgumentEntry} {slot : BindingSlot} :
    entry.place = some slot ↔ entry.kind ≠ .podPushConstant ∧ entry.slot = slot := by
  unfold place
  split <;> simp [*]

/-- Sizes the buffer of a slot to hold a value. -/
def fit (entry : ArgumentEntry) : Edit Buffer Unit := do
  if (← get).valueCount < entry.offset + entry.size then
    Buffer.resizeElements (entry.offset + entry.size)

/-- Writes a value into the buffer of its place, which is sized to hold it unless that is one for
push constants. -/
def store (entry : ArgumentEntry) (argument : ArgumentValue) : Edit Buffer Unit := do
  if entry.kind ≠ .podPushConstant then entry.fit
  Buffer.setDataAt argument.byteValues entry.offset

end ArgumentEntry

/-- The entry of an argument: the first that is its place. -/
def ArgumentValue.entry? (argument : ArgumentValue) (entries : List ArgumentEntry) :
    Option ArgumentEntry :=
  entries.find? (·.holds argument)

namespace Pipeline

/-- The buffer that values are stored in at a place. -/
def storageAt? (pipeline : Pipeline) : Option BindingSlot → Option (Id Buffer)
  | none => pipeline.pushConstants.map (·.buffer)
  | some slot => pipeline.argumentBuffers.lookup slot

/-- A value can be stored at its place: push constants take any, other places values of their own
size, and a buffer that is bound by hand is not one for values. -/
def Admits (pipeline : Pipeline) (entry : ArgumentEntry) (argument : ArgumentValue) : Prop :=
  ∀ slot, entry.place = some slot → entry.size = argument.format.size ∧
    (pipeline.storageAt? (some slot) = none → pipeline.bufferAt? slot = none)

theorem admits_of_place_some {pipeline : Pipeline} {entry : ArgumentEntry} {slot : BindingSlot}
    (located : entry.place = some slot) {argument : ArgumentValue} :
    pipeline.Admits entry argument ↔ entry.size = argument.format.size ∧
      (pipeline.storageAt? (some slot) = none → pipeline.bufferAt? slot = none) := by
  simp [Admits, located]

private theorem admits_of_place_none {pipeline : Pipeline} {entry : ArgumentEntry}
    (located : entry.place = none) (argument : ArgumentValue) : pipeline.Admits entry argument := by
  simp [Admits, located]

end Pipeline

namespace Workbench

/-- The bench with a buffer at the place of a value. -/
def equipped (bench : Workbench) (entry : ArgumentEntry) : Workbench :=
  match bench.pipeline.storageAt? entry.place, entry.place with
  | some _, _ => bench
  | none, none => bench.withPushConstants
  | none, some slot => bench.withArgumentBuffer slot entry.kind

theorem equipped_of_some {bench : Workbench} {entry : ArgumentEntry} {id : Id Buffer}
    (there : bench.pipeline.storageAt? entry.place = some id) : bench.equipped entry = bench := by
  rw [equipped, there]

theorem storageAt?_withPushConstants (bench : Workbench) (place : Option BindingSlot) :
    bench.withPushConstants.pipeline.storageAt? place =
      if place = none then some bench.buffers.nextId else bench.pipeline.storageAt? place := by
  cases place <;> rfl

theorem storageAt?_withArgumentBuffer {bench : Workbench} {slot : BindingSlot}
    (unbound : bench.pipeline.storageAt? (some slot) = none) (argument : ArgumentKind)
    (place : Option BindingSlot) :
    (bench.withArgumentBuffer slot argument).pipeline.storageAt? place =
      if place = some slot then some bench.buffers.nextId else bench.pipeline.storageAt? place := by
  cases place with
  | none => rfl
  | some other =>
    have appended : (bench.withArgumentBuffer slot argument).pipeline.storageAt? (some other) =
        (bench.pipeline.argumentBuffers ++ [(slot, bench.buffers.nextId)]).lookup other := rfl
    rw [appended, List.lookup_append]
    by_cases same : other = slot
    · subst other
      have missing : bench.pipeline.argumentBuffers.lookup slot = none := unbound
      simp [missing]
    · have unmade : List.lookup other [(slot, bench.buffers.nextId)] = none := by
        rw [List.lookup_cons, beq_false_of_ne same]
        rfl
      rw [unmade, Option.or_none, if_neg fun equal => same (Option.some.inj equal)]
      rfl

theorem storageAt?_equipped {bench : Workbench} {entry : ArgumentEntry}
    (unbound : bench.pipeline.storageAt? entry.place = none) (place : Option BindingSlot) :
    (bench.equipped entry).pipeline.storageAt? place =
      if place = entry.place then some bench.buffers.nextId
      else bench.pipeline.storageAt? place := by
  rw [equipped, unbound]
  cases located : entry.place with
  | none => exact storageAt?_withPushConstants bench place
  | some slot => exact storageAt?_withArgumentBuffer (located ▸ unbound) entry.kind place

theorem storageAt?_equipped_of_ne {bench : Workbench} {entry : ArgumentEntry}
    {place : Option BindingSlot} (apart : place ≠ entry.place) :
    (bench.equipped entry).pipeline.storageAt? place = bench.pipeline.storageAt? place := by
  cases there : bench.pipeline.storageAt? entry.place with
  | some id => rw [equipped_of_some there]
  | none => rw [storageAt?_equipped there, if_neg apart]

theorem storageAt?_equipped_of_some {bench : Workbench} {entry : ArgumentEntry}
    {place : Option BindingSlot} {id : Id Buffer}
    (there : bench.pipeline.storageAt? place = some id) :
    (bench.equipped entry).pipeline.storageAt? place = some id := by
  by_cases own : place = entry.place
  · rw [equipped_of_some (own ▸ there), there]
  · rw [storageAt?_equipped_of_ne own, there]

theorem onBuffer_ok {id : Id Buffer} {operation : Edit Buffer Unit} {bench after : Workbench} :
    (onBuffer id operation).apply bench = (.ok ⟨⟩, after) ↔
      ∃ buffer changed, bench.buffers.get? id = some buffer ∧
        operation.apply buffer = (.ok ⟨⟩, changed) ∧ after = bench.setBuffer id changed := by
  rw [apply_onBuffer]
  constructor
  · intro done
    cases found : bench.buffers.requireBuffer id with
    | error fault =>
      rw [found] at done
      cases done
    | ok buffer =>
      rw [found] at done
      obtain ⟨outcome, same⟩ := Prod.mk.inj done
      exact ⟨buffer, _, Store.requireBuffer_ok_iff.mp found, Prod.ext outcome rfl, same.symm⟩
  · rintro ⟨buffer, changed, found, done, rfl⟩
    rw [Store.requireBuffer_ok_iff.mpr found]
    dsimp only
    rw [done]

private theorem onBuffer_bind_ok {id : Id Buffer} {first next : Edit Buffer Unit}
    {bench after : Workbench} :
    (∃ between, (onBuffer id first).apply bench = (.ok ⟨⟩, between) ∧
      (onBuffer id next).apply between = (.ok ⟨⟩, after)) ↔
      (onBuffer id (first >>= fun _ => next)).apply bench = (.ok ⟨⟩, after) := by
  simp only [onBuffer_ok, Edit.bind_ok]
  constructor
  · rintro ⟨_, ⟨buffer, changed, found, left, rfl⟩, _, final, again, right, rfl⟩
    rw [setBuffer, Store.get?_set_self found] at again
    cases again
    refine ⟨buffer, final, found, ⟨⟨⟩, changed, left, right⟩, ?_⟩
    exact congrArg (fun buffers => { bench with buffers }) (Store.set_set _ _ _ _)
  · rintro ⟨buffer, final, found, ⟨_, changed, left, right⟩, rfl⟩
    refine ⟨_, ⟨buffer, changed, found, left, rfl⟩, changed, final, ?_, right, ?_⟩
    · exact Store.get?_set_self found changed
    · exact congrArg (fun buffers => { bench with buffers }) (Store.set_set _ _ _ _).symm

/-- The buffer for push constants is the one that is bound, or else a new one. -/
theorem argumentBuffer_push_ok {kernel : String} {argument : ArgumentValue}
    {entry : ArgumentEntry} (push : entry.kind = .podPushConstant) {bench after : Workbench}
    {id : Id Buffer} :
    (argumentBuffer kernel argument (some entry)).apply bench = (.ok id, after) ↔
      (bench.equipped entry).pipeline.storageAt? entry.place = some id ∧
        after = bench.equipped entry := by
  have located := ArgumentEntry.place_eq_none.mpr push
  unfold argumentBuffer
  dsimp only
  rw [if_pos push, Edit.apply_bind_of_ok (Edit.apply_get bench), equipped, located]
  cases bound : bench.pipeline.pushConstants with
  | some binding =>
    have there : bench.pipeline.storageAt? none = some binding.buffer := by
      rw [Pipeline.storageAt?, bound]
      rfl
    rw [there]
    dsimp only
    rw [there, Edit.apply_pure, Prod.mk.injEq, Except.ok.injEq, Option.some.injEq]
    exact and_congr_right fun _ => eq_comm
  | none =>
    have missing : bench.pipeline.storageAt? none = none := by
      rw [Pipeline.storageAt?, bound]
      rfl
    rw [missing]
    dsimp only
    rw [apply_makePushConstantBuffer, bound, storageAt?_withPushConstants, if_pos rfl]
    simp [eq_comm]

/-- The buffer of a value is sized to hold it, and given back if the sizes agree. -/
theorem sized_ok {kernel : String} {argument : ArgumentValue} {entry : ArgumentEntry}
    {id result : Id Buffer} {bench after : Workbench} :
    (do
      onBuffer id do
        if (← get).valueCount < entry.offset + entry.size then
          Buffer.resizeElements (entry.offset + entry.size)
      if entry.size ≠ argument.format.size then
        throw (.pipeline (.argumentSize kernel argument.describe))
      return id : Edit Workbench (Id Buffer)).apply bench = (.ok result, after) ↔
      id = result ∧ entry.size = argument.format.size ∧
        (onBuffer id entry.fit).apply bench = (.ok ⟨⟩, after) := by
  rw [Edit.bind_ok]
  constructor
  · rintro ⟨_, between, sized, done⟩
    dsimp only at done
    split at done
    · cases done
    · rename_i agree
      cases done
      exact ⟨rfl, Decidable.not_not.mp agree, sized⟩
  · rintro ⟨rfl, agree, sized⟩
    refine ⟨⟨⟩, after, sized, ?_⟩
    rw [if_neg (not_not_intro agree)]
    rfl

/-- The buffer of a slot is the one that was made for it, or else a new one; it is sized to hold
the value. -/
theorem argumentBuffer_slot_ok {kernel : String} {argument : ArgumentValue}
    {entry : ArgumentEntry} (plain : entry.kind ≠ .podPushConstant) {bench after : Workbench}
    {id : Id Buffer} :
    (argumentBuffer kernel argument (some entry)).apply bench = (.ok id, after) ↔
      bench.pipeline.Admits entry argument ∧
      (bench.equipped entry).pipeline.storageAt? entry.place = some id ∧
      (onBuffer id entry.fit).apply (bench.equipped entry) = (.ok ⟨⟩, after) := by
  have located : entry.place = some entry.slot := ArgumentEntry.place_eq_some.mpr ⟨plain, rfl⟩
  unfold argumentBuffer
  dsimp only
  rw [if_neg plain, Edit.apply_bind_of_ok (Edit.apply_get bench)]
  cases there : bench.pipeline.argumentBuffers.lookup entry.slot with
  | some existing =>
    have stored : bench.pipeline.storageAt? (some entry.slot) = some existing := there
    rw [equipped_of_some (located ▸ stored), Pipeline.admits_of_place_some located, located, stored,
      Option.some.injEq]
    refine sized_ok.trans ?_
    constructor
    · rintro ⟨rfl, agree, sized⟩
      exact ⟨⟨agree, nofun⟩, rfl, sized⟩
    · rintro ⟨⟨agree, -⟩, rfl, sized⟩
      exact ⟨rfl, agree, sized⟩
  | none =>
    have missing : bench.pipeline.storageAt? (some entry.slot) = none := there
    have made : bench.equipped entry = bench.withArgumentBuffer entry.slot entry.kind := by
      rw [equipped, located, missing]
    rw [made, Pipeline.admits_of_place_some located, located,
      storageAt?_withArgumentBuffer missing, if_pos rfl, missing, Option.some.injEq]
    dsimp only
    rw [Edit.apply_bind, apply_makeArgumentBuffer]
    cases bench.pipeline.bufferAt? entry.slot with
    | some existing => simp
    | none =>
      refine sized_ok.trans ?_
      constructor
      · rintro ⟨rfl, agree, sized⟩
        exact ⟨⟨agree, fun _ => rfl⟩, rfl, sized⟩
      · rintro ⟨⟨agree, -⟩, rfl, sized⟩
        exact ⟨rfl, agree, sized⟩

theorem stored_ok {kernel : String} {argument : ArgumentValue} {entry : ArgumentEntry}
    {bench after : Workbench} :
    (∃ id between, (argumentBuffer kernel argument (some entry)).apply bench = (.ok id, between) ∧
      (onBuffer id (Buffer.setDataAt argument.byteValues entry.offset)).apply between =
        (.ok ⟨⟩, after)) ↔
      bench.pipeline.Admits entry argument ∧
      ∃ id, (bench.equipped entry).pipeline.storageAt? entry.place = some id ∧
        (onBuffer id (entry.store argument)).apply (bench.equipped entry) = (.ok ⟨⟩, after) := by
  by_cases push : entry.kind = .podPushConstant
  · have store : entry.store argument = Buffer.setDataAt argument.byteValues entry.offset := by
      unfold ArgumentEntry.store
      exact if_neg (not_not_intro push)
    have admits : bench.pipeline.Admits entry argument :=
      Pipeline.admits_of_place_none (ArgumentEntry.place_eq_none.mpr push) argument
    simp only [argumentBuffer_push_ok push, store, admits, true_and]
    constructor
    · rintro ⟨id, _, ⟨there, rfl⟩, written⟩
      exact ⟨id, there, written⟩
    · rintro ⟨id, there, written⟩
      exact ⟨id, _, ⟨there, rfl⟩, written⟩
  · have store : entry.store argument =
        entry.fit >>= fun _ => Buffer.setDataAt argument.byteValues entry.offset := by
      unfold ArgumentEntry.store
      exact if_pos push
    simp only [argumentBuffer_slot_ok push, store, ← onBuffer_bind_ok]
    constructor
    · rintro ⟨id, between, ⟨admits, there, sized⟩, written⟩
      exact ⟨admits, id, there, between, sized, written⟩
    · rintro ⟨admits, id, there, between, sized, written⟩
      exact ⟨id, between, ⟨admits, there, sized⟩, written⟩

/-- A value is stored when it has an entry that admits it and can be written at its place; the
other values are then stored on the bench that is left. -/
theorem storeArguments_cons_ok {kernel : String} {entries : List ArgumentEntry}
    {argument : ArgumentValue} {rest : List ArgumentValue} {bench final : Workbench} :
    (storeArguments kernel entries (argument :: rest)).apply bench = (.ok ⟨⟩, final) ↔
      ∃ entry id buffer changed, argument.entry? entries = some entry ∧
        bench.pipeline.Admits entry argument ∧
        (bench.equipped entry).pipeline.storageAt? entry.place = some id ∧
        (bench.equipped entry).buffers.get? id = some buffer ∧
        (entry.store argument).apply buffer = (.ok ⟨⟩, changed) ∧
        (storeArguments kernel entries rest).apply ((bench.equipped entry).setBuffer id changed) =
          (.ok ⟨⟩, final) := by
  rw [storeArguments, ← ArgumentValue.entry?]
  cases found : argument.entry? entries with
  | none =>
    refine iff_of_false (fun done => ?_) (by simp)
    obtain ⟨id, between, provided, -⟩ := Edit.bind_ok.mp done
    cases provided
  | some entry =>
    rw [Edit.bind_ok]
    constructor
    · rintro ⟨id, between, provided, ran⟩
      obtain ⟨_, after, written, ran⟩ := Edit.bind_ok.mp ran
      obtain ⟨admits, id, there, written⟩ := stored_ok.mp ⟨id, between, provided, written⟩
      obtain ⟨buffer, changed, present, stored, rfl⟩ := onBuffer_ok.mp written
      exact ⟨entry, id, buffer, changed, rfl, admits, there, present, stored, ran⟩
    · rintro ⟨_, id, buffer, changed, same, admits, there, present, written, ran⟩
      cases same
      obtain ⟨id, between, provided, written⟩ := stored_ok.mpr
        ⟨admits, id, there, onBuffer_ok.mpr ⟨buffer, changed, present, written, rfl⟩⟩
      exact ⟨id, between, provided, Edit.bind_ok.mpr ⟨⟨⟩, _, written, ran⟩⟩

end Workbench

end GpuScript
