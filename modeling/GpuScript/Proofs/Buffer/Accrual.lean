import GpuScript.Proofs.Buffer.Sizes

namespace GpuScript

namespace Buffer

/-- How settled the format of a buffer is: there is none, one was picked for it, or it has its
own. -/
def formatRank (buffer : Buffer) : Nat :=
  if buffer.format.isNone then 0 else if buffer.formatIsDefault then 1 else 2

/-- A buffer has at most got a more settled format, a larger recorded size and another number of
elements. -/
structure Accrues (before after : Buffer) : Prop where
  rest : after = { before with
    format := after.format
    formatIsDefault := after.formatIsDefault
    elementCount := after.elementCount
    recordedSize := after.recordedSize }
  format : before.formatRank < after.formatRank ∨
    after.format = before.format ∧ after.formatIsDefault = before.formatIsDefault
  recorded : before.recordedSize ≤ after.recordedSize

namespace Accrues

theorem refl (buffer : Buffer) : Accrues buffer buffer := ⟨rfl, .inr ⟨rfl, rfl⟩, Nat.le_refl _⟩

variable {before between after : Buffer}

theorem rank_le (accrues : Accrues before after) : before.formatRank ≤ after.formatRank := by
  rcases accrues.format with more | ⟨format, isDefault⟩
  · exact Nat.le_of_lt more
  · have same : after.formatRank = before.formatRank := by
      unfold formatRank
      rw [format, isDefault]
    exact Nat.le_of_eq same.symm

theorem trans (first : Accrues before between) (next : Accrues between after) :
    Accrues before after where
  rest := by
    rw [next.rest, first.rest]
  format := by
    rcases first.format with more | ⟨format, isDefault⟩
    · exact .inl (Nat.lt_of_lt_of_le more next.rank_le)
    · rcases next.format with more | ⟨formatNext, isDefaultNext⟩
      · exact .inl (Nat.lt_of_le_of_lt first.rank_le more)
      · exact .inr ⟨formatNext.trans format, isDefaultNext.trans isDefault⟩
  recorded := Nat.le_trans first.recorded next.recorded

theorem name (accrues : Accrues before after) : after.name = before.name := by
  rw [accrues.rest]

end Accrues

def uncounted (buffer : Buffer) : Buffer := { buffer with elementCount := 0 }

theorem eq_of_uncounted {left right : Buffer} (rest : left.uncounted = right.uncounted)
    (count : left.elementCount = right.elementCount) : left = right :=
  calc left = { left.uncounted with elementCount := left.elementCount } := rfl
    _ = { right.uncounted with elementCount := right.elementCount } := by rw [rest, count]
    _ = right := rfl

/-- Between two buffers that differ in the number of elements only, nothing has been added. -/
theorem Accrues.squeeze {before between after : Buffer} (first : Accrues before between)
    (next : Accrues between after) (same : after.uncounted = before.uncounted) :
    between.uncounted = before.uncounted := by
  have rank : after.formatRank = before.formatRank :=
    show after.uncounted.formatRank = before.uncounted.formatRank from congrArg formatRank same
  have recorded : after.recordedSize = before.recordedSize :=
    show after.uncounted.recordedSize = before.uncounted.recordedSize from
      congrArg Buffer.recordedSize same
  have kept : between.recordedSize = before.recordedSize :=
    Nat.le_antisymm (recorded ▸ next.recorded) first.recorded
  have settled : between.format = before.format ∧
      between.formatIsDefault = before.formatIsDefault := by
    refine first.format.resolve_left fun more => ?_
    have below := next.rank_le
    omega
  rw [uncounted, first.rest, settled.1, settled.2, kept]
  rfl

theorem accrues_count (buffer : Buffer) (count : Nat) :
    Accrues buffer { buffer with elementCount := count } :=
  ⟨rfl, .inr ⟨rfl, rfl⟩, Nat.le_refl _⟩

theorem accrues_pickFormat {buffer : Buffer} (missing : buffer.format = none) (format : Format) :
    Accrues buffer { buffer.withFormat format with formatIsDefault := true } := by
  refine ⟨rfl, .inl ?_, Nat.le_refl _⟩
  rw [formatRank, missing]
  exact Nat.zero_lt_one

theorem accrues_withFormat {buffer : Buffer} (free : buffer.ownFormat? = none) (format : Format) :
    Accrues buffer (buffer.withFormat format) := by
  refine ⟨rfl, .inl ?_, Nat.le_refl _⟩
  change buffer.formatRank < 2
  have unsettled : ¬(buffer.format.isSome && !buffer.formatIsDefault) = true := by
    rw [← isSome_ownFormat?, free]
    exact Bool.false_ne_true
  unfold formatRank
  cases format : buffer.format with
  | none => exact Nat.zero_lt_two
  | some given =>
    cases picked : buffer.formatIsDefault with
    | true => exact Nat.one_lt_two
    | false =>
      rw [format, picked] at unsettled
      exact absurd rfl unsettled

theorem recordedSize_le_maxSize (buffer : Buffer) : buffer.recordedSize ≤ buffer.maxSize := by
  unfold maxSize
  split <;> omega

theorem accrues_recordSize (values : List Value) (offset : Nat) (buffer : Buffer) :
    Accrues buffer ((recordSize values offset).apply buffer).2 := by
  rw [recordSize, Edit.apply_bind_of_ok (Edit.apply_get buffer), Edit.apply_bind,
    Edit.apply_ofExcept]
  cases buffer.requireFormat with
  | error fault => exact .refl buffer
  | ok format =>
    dsimp only
    rw [Edit.apply_bind_of_ok (Edit.apply_get buffer), Edit.apply_bind, Edit.apply_ofExcept]
    cases buffer.shapeOf format with
    | error fault => exact .refl buffer
    | ok shape =>
      dsimp only
      rw [Edit.apply_bind_of_ok (Edit.apply_get buffer)]
      generalize (if format.isPacked then shape.valuesThrough values.length offset
        else shape.valuesThrough values.length offset / shape.inputs) * shape.size = size
      by_cases short : buffer.maxSize < size
      · rw [if_pos short]
        have risen := Nat.le_trans buffer.recordedSize_le_maxSize (Nat.le_of_lt short)
        exact ⟨rfl, .inr ⟨rfl, rfl⟩, risen⟩
      · rw [if_neg short]
        exact .refl buffer

end Buffer

end GpuScript
