import GpuScript.Proofs.Buffer.Rewriting
import GpuScript.Proofs.Pipeline.Arguments

/-! Storing the values of kernel arguments a second time, after all of them have been stored. Both
runs go through the same writes, the second one in buffers that have got their final sizes; at its
end each bit is what the last write has made it, which is what the first run has left. -/
namespace GpuScript

namespace Buffer

theorem valueCount_of_format {buffer : Buffer} {format : Format}
    (present : buffer.format = some format) :
    buffer.valueCount =
      if format.isPacked then buffer.elementCount
      else buffer.elementCount * format.inputCount := by
  rw [valueCount, present]

private theorem elementCount_le_valueCount {buffer : Buffer} {format : Format}
    (present : buffer.format = some format) (inputs : 0 < format.inputCount) :
    buffer.elementCount ≤ buffer.valueCount := by
  rw [valueCount_of_format present]
  split
  · exact Nat.le_refl _
  · exact Nat.le_mul_of_pos_right _ inputs

private theorem valueCount_mono {buffer other : Buffer} (format : other.format = buffer.format)
    (count : buffer.elementCount ≤ other.elementCount) : buffer.valueCount ≤ other.valueCount := by
  cases present : buffer.format with
  | none =>
    rw [valueCount, present]
    exact Nat.zero_le _
  | some own =>
    rw [valueCount_of_format present, valueCount_of_format (format.trans present)]
    split
    · exact count
    · exact Nat.mul_le_mul_right _ count

end Buffer

namespace ArgumentEntry

theorem fills_fit (entry : ArgumentEntry) : Buffer.Fills entry.fit :=
  .onBuffer fun _ outline =>
    Edit.maintains_ite (Buffer.fills_resizeElements _ outline) (Buffer.fills_pure _ outline)

private theorem fit_again {entry : ArgumentEntry} {before after other : Buffer} {format : Format}
    (sized : entry.fit.apply before = (.ok ⟨⟩, after)) (present : before.format = some format)
    (inputs : 0 < format.inputCount) (sameFormat : other.format = before.format)
    (count : after.elementCount ≤ other.elementCount) :
    before.Grown after ∧ entry.fit.apply other = (.ok ⟨⟩, other) ∧
      (before.Fitted → ∀ place, bitAt after.bytes place = bitAt before.bytes place) := by
  unfold fit at sized ⊢
  rw [Edit.apply_bind_of_ok (Edit.apply_get _)] at sized ⊢
  have held (kept : after.format = before.format)
      (enough : entry.offset + entry.size ≤ after.valueCount) :
      ¬other.valueCount < entry.offset + entry.size := by
    have more := Buffer.valueCount_mono (sameFormat.trans kept.symm) count
    omega
  split at sized
  · rename_i short
    rw [Buffer.resizeElements, Edit.apply_bind_of_ok (Edit.apply_get before),
      Buffer.requireFormat_of_format present, Edit.apply_bind_of_ok (Edit.apply_ofExcept _ _)]
      at sized
    have counted := Buffer.elementCount_le_valueCount present inputs
    have longer : before.elementCount ≤ entry.offset + entry.size := by omega
    let resized : Buffer := { before with
      elementCount := entry.offset + entry.size
      bytes := resizeBytes before.bytes ((entry.offset + entry.size) * format.size) }
    have presentResized : resized.format = some format := present
    have same : resized = after := (Prod.mk.inj sized).2
    subst same
    rw [if_neg (held rfl (Buffer.elementCount_le_valueCount presentResized inputs))]
    refine ⟨⟨rfl, longer, fun _ => ?_⟩, rfl, fun fitted place => ?_⟩
    · exact (size_resizeBytes _ _).trans (Buffer.size_of_format presentResized).symm
    · refine bitAt_resizeBytes_of_le ?_ place
      rw [show before.bytes.size = before.size from fitted, Buffer.size_of_format present]
      exact Nat.mul_le_mul_right _ longer
  · rename_i enough
    cases sized
    rw [if_neg (held rfl (Nat.not_lt.mp enough))]
    exact ⟨.refl _, rfl, fun _ _ => rfl⟩

/-- A value that was stored can be stored again in a buffer with as many elements. -/
theorem store_again {entry : ArgumentEntry} {argument : ArgumentValue}
    {before after other : Buffer}
    (stored : (entry.store argument).apply before = (.ok ⟨⟩, after))
    (sameFormat : other.format = before.format) (count : after.elementCount ≤ other.elementCount)
    (fitted : other.Fitted) :
    before.Grown after ∧ after.Fitted ∧
      ∃ result, Buffer.Repeats (entry.store argument) before after other result := by
  unfold store at stored ⊢
  split at stored
  · rename_i plain
    obtain ⟨_, between, sized, written⟩ := Edit.bind_ok.mp stored
    obtain ⟨format, present, -, inputs⟩ := Buffer.setDataAt_shaped written
    have outline := congrArg Buffer.format (entry.fills_fit.outline before)
    rw [sized] at outline
    have kept : between.format = before.format := outline
    obtain ⟨grownRest, fittedAfter, result, again, long, bits⟩ :=
      Buffer.setDataAt_again written (sameFormat.trans kept.symm) count fitted
    obtain ⟨grown, unsized, same⟩ := fit_again sized (kept.symm.trans present) inputs sameFormat
      (Nat.le_trans grownRest.count count)
    refine ⟨grown.trans grownRest, fittedAfter, result, ?_, long, fun place => ?_⟩
    · simp only [if_pos plain]
      rw [Edit.apply_bind_of_ok unsized]
      exact again
    · refine (bits place).imp_right fun ⟨keptRight, keptLeft⟩ => ⟨keptRight, fun fittedBefore => ?_⟩
      exact (keptLeft (grown.fitted fittedBefore)).trans (same fittedBefore place)
  · rename_i push
    simp only [if_neg push]
    exact Buffer.setDataAt_again stored sameFormat count fitted

private theorem fills_store (entry : ArgumentEntry) (argument : ArgumentValue) :
    Buffer.Fills (entry.store argument) := by
  unfold store
  have written := Buffer.fills_setDataAt argument.byteValues entry.offset
  split
  · exact entry.fills_fit.bind fun _ => written
  · exact written

/-- A buffer that a value is stored in has grown, and its bytes are fitted. -/
theorem grown_of_store {entry : ArgumentEntry} {argument : ArgumentValue} {before after : Buffer}
    (stored : (entry.store argument).apply before = (.ok ⟨⟩, after)) :
    before.Grown after ∧ after.Fitted := by
  have outline := congrArg Buffer.format ((entry.fills_store argument).outline before)
  rw [stored] at outline
  have kept : after.fitBytes.format = before.format := outline
  have fitted : after.fitBytes.Fitted := size_resizeBytes _ _
  obtain ⟨grown, fittedAfter, -⟩ := store_again stored kept (Nat.le_refl _) fitted
  exact ⟨grown, fittedAfter⟩

end ArgumentEntry

namespace Store

/-- All buffers of a store have grown. -/
def Grows (before after : Store Buffer) : Prop :=
  ∀ id buffer, before.get? id = some buffer → ∃ grown, after.get? id = some grown ∧
    buffer.Grown grown

theorem Grows.refl (store : Store Buffer) : Grows store store :=
  fun _ buffer found => ⟨buffer, found, .refl buffer⟩

theorem Grows.trans {before between after : Store Buffer} (first : Grows before between)
    (next : Grows between after) : Grows before after := by
  intro id buffer found
  obtain ⟨grown, foundBetween, left⟩ := first id buffer found
  obtain ⟨final, foundAfter, right⟩ := next id grown foundBetween
  exact ⟨final, foundAfter, left.trans right⟩

theorem grows_push (store : Store Buffer) (buffer : Buffer) : Grows store (store.push buffer) := by
  intro id held found
  exact ⟨held, (get?_push_of_lt _ _ _ (lt_size_of_get? found)).trans found, .refl held⟩

private theorem grows_set {store : Store Buffer} {id : Id Buffer} {before after : Buffer}
    (found : store.get? id = some before) (grown : before.Grown after) :
    Grows store (store.set id after) := by
  intro other held foundOther
  by_cases same : id = other
  · subst same
    cases found.symm.trans foundOther
    exact ⟨after, get?_set_self found after, grown⟩
  · exact ⟨held, (get?_set_of_ne _ same after).trans foundOther, .refl held⟩

end Store

/-- A buffer of the second run: it is the final one but for its bytes, and each bit is final or the
one that the first run had at this time. -/
structure Buffer.Follows (final : Buffer) (earlier : Option Buffer) (buffer : Buffer) : Prop where
  rest : buffer = { final with bytes := buffer.bytes }
  size : buffer.bytes.size = final.bytes.size
  bits : ∀ place, bitAt buffer.bytes place = bitAt final.bytes place ∨
    ∃ before ∈ earlier, before.Fitted ∧ bitAt buffer.bytes place = bitAt before.bytes place

namespace Store

/-- The buffers of the second run trail those of the first one, which has led to the final ones. -/
structure Trails (final first second : Store Buffer) : Prop where
  size : second.size = final.size
  follows : ∀ id buffer, final.get? id = some buffer →
    ∃ other, second.get? id = some other ∧ buffer.Follows (first.get? id) other

theorem trails_start (final first : Store Buffer) : Trails final first final :=
  ⟨rfl, fun _ buffer found => ⟨buffer, found, rfl, rfl, fun _ => .inl rfl⟩⟩

/-- When the first run has reached its end, the second one has too. -/
theorem Trails.eq {final second : Store Buffer} (trails : Trails final final second) :
    second = final := by
  refine ext_get? fun id => ?_
  rcases Nat.lt_or_ge id.index final.size with inside | outside
  · obtain ⟨buffer, found⟩ := exists_get?_of_lt inside
    obtain ⟨other, present, rest, size, bits⟩ := trails.follows id buffer found
    rw [found] at bits
    have bytes : other.bytes = buffer.bytes := by
      refine eq_of_bitAt size fun place => ?_
      rcases bits place with same | ⟨before, itself, -, same⟩
      · exact same
      · cases itself
        exact same
    rw [present, found, rest, bytes]
  · have beyond : second.size ≤ id.index := trails.size ▸ outside
    exact (Array.getElem?_eq_none beyond).trans (Array.getElem?_eq_none outside).symm

/-- A new buffer of the first run is one that the second run has already. -/
theorem Trails.push {final first second : Store Buffer} (trails : Trails final first second)
    (fresh : Buffer) : Trails final (first.push fresh) second := by
  refine ⟨trails.size, fun id buffer found => ?_⟩
  obtain ⟨other, present, rest, size, bits⟩ := trails.follows id buffer found
  refine ⟨other, present, rest, size, fun place => (bits place).imp_right ?_⟩
  rintro ⟨before, earlier, fitted, same⟩
  exact ⟨before, (get?_push_of_lt _ _ _ (lt_size_of_get? earlier)).trans earlier, fitted, same⟩

/-- A value that the first run stores is stored by the second one too. -/
theorem Trails.store {final first second : Store Buffer} (trails : Trails final first second)
    {entry : ArgumentEntry} {argument : ArgumentValue} {id : Id Buffer} {before after : Buffer}
    (found : first.get? id = some before)
    (stored : (entry.store argument).apply before = (.ok ⟨⟩, after))
    (grows : Grows (first.set id after) final) :
    ∃ other changed, second.get? id = some other ∧
      (entry.store argument).apply other = (.ok ⟨⟩, changed) ∧
      Trails final (first.set id after) (second.set id changed) := by
  obtain ⟨grownAfter, fittedAfter⟩ := ArgumentEntry.grown_of_store stored
  obtain ⟨goal, foundGoal, grown⟩ := grows id after (get?_set_self found after)
  obtain ⟨other, present, rest, size, bits⟩ := trails.follows id goal foundGoal
  have format : other.format = before.format := by
    rw [rest]
    exact grown.format.trans grownAfter.format
  have count : after.elementCount ≤ other.elementCount := by
    rw [rest]
    exact grown.count
  have fitted : other.Fitted :=
    size.trans ((grown.fitted fittedAfter).trans (congrArg Buffer.size rest).symm)
  obtain ⟨-, -, result, again, long, imprinted⟩ :=
    ArgumentEntry.store_again stored format count fitted
  refine ⟨other, { other with bytes := result }, present, again, ?_, fun key buffer foundKey => ?_⟩
  · exact (size_modify ..).trans trails.size
  by_cases same : id = key
  · subst same
    cases foundGoal.symm.trans foundKey
    refine ⟨_, get?_set_self present _, ?_, long.trans size, fun place => ?_⟩
    · rw [rest]
    rw [get?_set_self found]
    rcases imprinted place with written | ⟨kept, keptBefore⟩
    · exact .inr ⟨after, rfl, fittedAfter, written⟩
    · rcases bits place with settled | ⟨_, earlier, fittedBefore, trailing⟩
      · exact .inl (kept.trans settled)
      · cases found.symm.trans earlier
        exact .inr ⟨after, rfl, fittedAfter,
          kept.trans (trailing.trans (keptBefore fittedBefore).symm)⟩
  · rw [get?_set_of_ne _ same, get?_set_of_ne _ same]
    exact trails.follows key buffer foundKey

end Store

namespace Workbench

private theorem grows_equipped (bench : Workbench) (entry : ArgumentEntry) :
    bench.buffers.Grows (bench.equipped entry).buffers := by
  cases own : bench.pipeline.storageAt? entry.place with
  | some other =>
    rw [equipped_of_some own]
    exact .refl _
  | none =>
    obtain ⟨made, -, -, buffers, -⟩ := equipped_of_none own
    rw [buffers]
    exact Store.grows_push _ _

private theorem trails_equipped {final second : Store Buffer} {bench : Workbench}
    (trails : final.Trails bench.buffers second) (entry : ArgumentEntry) :
    final.Trails (bench.equipped entry).buffers second := by
  cases own : bench.pipeline.storageAt? entry.place with
  | some other =>
    rw [equipped_of_some own]
    exact trails
  | none =>
    obtain ⟨made, -, -, buffers, -⟩ := equipped_of_none own
    rw [buffers]
    exact trails.push made

theorem grows_storeArguments {kernel : String} {entries : List ArgumentEntry}
    {arguments : List ArgumentValue} {bench after : Workbench}
    (ran : (storeArguments kernel entries arguments).apply bench = (.ok ⟨⟩, after)) :
    bench.buffers.Grows after.buffers ∧
      ∀ place id, bench.pipeline.storageAt? place = some id →
        after.pipeline.storageAt? place = some id := by
  induction arguments generalizing bench with
  | nil =>
    cases ran
    exact ⟨.refl _, fun _ _ there => there⟩
  | cons argument rest ih =>
    obtain ⟨entry, id, buffer, changed, -, -, -, present, stored, ran⟩ :=
      storeArguments_cons_ok.mp ran
    obtain ⟨grows, kept⟩ := ih ran
    have written := Store.grows_set present (ArgumentEntry.grown_of_store stored).1
    refine ⟨(bench.grows_equipped entry).trans (written.trans grows), fun place id there => ?_⟩
    exact kept place id (storageAt?_equipped_of_some there)

/-- Values that were stored can be stored again where all places have the buffers that they got. -/
theorem replay_storeArguments {kernel : String} {entries : List ArgumentEntry}
    {arguments : List ArgumentValue} {bench after : Workbench} (again : Workbench)
    {final : Store Buffer}
    (ran : (storeArguments kernel entries arguments).apply bench = (.ok ⟨⟩, after))
    (grows : after.buffers.Grows final)
    (kept : ∀ place id, after.pipeline.storageAt? place = some id →
      again.pipeline.storageAt? place = some id)
    (trails : final.Trails bench.buffers again.buffers) :
    ∃ buffers, (storeArguments kernel entries arguments).apply again =
        (.ok ⟨⟩, { again with buffers }) ∧ final.Trails after.buffers buffers := by
  induction arguments generalizing bench again with
  | nil =>
    cases ran
    exact ⟨again.buffers, rfl, trails⟩
  | cons argument rest ih =>
    obtain ⟨entry, id, buffer, changed, found, admits, there, present, stored, ran⟩ :=
      storeArguments_cons_ok.mp ran
    obtain ⟨growsRest, keptRest⟩ := grows_storeArguments ran
    obtain ⟨other, rewritten, presentOther, storedOther, trailsNext⟩ :=
      (trails_equipped trails entry).store present stored (growsRest.trans grows)
    have thereOther : again.pipeline.storageAt? entry.place = some id :=
      kept _ _ (keptRest _ _ there)
    obtain ⟨buffers, ranOther, trailsAfter⟩ :=
      ih (again.setBuffer id rewritten) ran kept trailsNext
    refine ⟨buffers, storeArguments_cons_ok.mpr ?_, trailsAfter⟩
    refine ⟨entry, id, other, rewritten, found, fun slot located => ?_, ?_, ?_, storedOther, ?_⟩
    · refine ⟨(admits slot located).1, fun missing => ?_⟩
      rw [located] at thereOther
      cases missing.symm.trans thereOther
    · exact storageAt?_equipped_of_some thereOther
    · rw [equipped_of_some thereOther]
      exact presentOther
    · rw [equipped_of_some thereOther]
      exact ranOther

theorem replay_makeArgumentBuffers {bench after again : Workbench} {final : Store Buffer}
    (made : makeArgumentBuffers.apply bench = (.ok ⟨⟩, after)) (grows : after.buffers.Grows final)
    (same : again.pipeline = after.pipeline)
    (trails : final.Trails bench.buffers again.buffers) :
    ∃ buffers, makeArgumentBuffers.apply again = (.ok ⟨⟩, { again with buffers }) ∧
      final.Trails after.buffers buffers := by
  have outline := outline_makeArgumentBuffers bench
  rw [made, ← same] at outline
  obtain ⟨kernel, entries, values⟩ := Pipeline.kernel_of_outline outline
  rw [apply_makeArgumentBuffers] at made ⊢
  rw [kernel, entries, values]
  split at made
  · exact replay_storeArguments again made grows (fun _ _ there => same ▸ there) trails
  · cases made
    exact ⟨again.buffers, rfl, trails⟩

end Workbench

end GpuScript
