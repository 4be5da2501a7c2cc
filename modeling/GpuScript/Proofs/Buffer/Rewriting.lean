import GpuScript.Proofs.Buffer.Writing

namespace GpuScript

/-- Two rows of bytes that change together: each bit becomes the same in both or stays as it was in
both. -/
def Imprints (left leftAfter right rightAfter : Array UInt8) : Prop :=
  ∀ place, bitAt rightAfter place = bitAt leftAfter place ∨
    bitAt rightAfter place = bitAt right place ∧ bitAt leftAfter place = bitAt left place

namespace Imprints

theorem refl (left right : Array UInt8) : Imprints left left right right :=
  fun _ => .inr ⟨rfl, rfl⟩

theorem trans {left leftBetween leftAfter right rightBetween rightAfter : Array UInt8}
    (first : Imprints left leftBetween right rightBetween)
    (next : Imprints leftBetween leftAfter rightBetween rightAfter) :
    Imprints left leftAfter right rightAfter := by
  intro place
  rcases next place with same | ⟨rightKept, leftKept⟩
  · exact .inl same
  · rcases first place with same | ⟨rightFirst, leftFirst⟩
    · exact .inl (rightKept.trans (same.trans leftKept.symm))
    · exact .inr ⟨rightKept.trans rightFirst, leftKept.trans leftFirst⟩

end Imprints

private theorem imprints_zeroBytes (left right : Array UInt8) (start count : Nat) :
    Imprints left (zeroBytes left start count) right (zeroBytes right start count) := by
  intro place
  rw [bitAt_zeroBytes, bitAt_zeroBytes]
  by_cases cleared : 8 * start ≤ place ∧ place < 8 * (start + count)
  · exact .inl (by rw [if_pos cleared, if_pos cleared])
  · exact .inr ⟨if_neg cleared, if_neg cleared⟩

namespace BitField

/-- A value that was written into a field can be written into more bytes. -/
theorem writeValue_again {field : BitField} {bytes after larger : Array UInt8} {value : Value}
    (written : field.writeValue bytes value = .ok after) (size : bytes.size ≤ larger.size) :
    after.size = bytes.size ∧ ∃ result, field.writeValue larger value = .ok result ∧
      result.size = larger.size ∧ Imprints bytes after larger result := by
  unfold writeValue at written ⊢
  cases coded : value.code field.width with
  | error fault =>
    rw [coded] at written
    cases written
  | ok code =>
    rw [coded] at written
    have wrote : field.write bytes code = .ok after := written
    have fits := write_ok_iff.mp ⟨after, wrote⟩
    have room : field.span ≤ larger.size - field.firstByte := by omega
    obtain ⟨result, again⟩ : ∃ result, field.write larger code = .ok result := write_ok_iff.mpr room
    refine ⟨size_write wrote, result, again, size_write again, fun place => ?_⟩
    rw [bitAt_write wrote, bitAt_write again]
    by_cases covered : field.Covers place
    · exact .inl (by rw [if_pos covered, if_pos covered])
    · exact .inr ⟨if_neg covered, if_neg covered⟩

end BitField

namespace Buffer

/-- What was written into a buffer can be written into one with more bytes; only bytes change. -/
private structure Rewrites (operation : Edit Buffer Unit) (before after other : Buffer)
    (result : Array UInt8) : Prop where
  again : operation.apply other = (.ok ⟨⟩, { other with bytes := result })
  size : result.size = other.bytes.size
  imprints : Imprints before.bytes after.bytes other.bytes result

private theorem writeValues_again {format : Format} {start number : Nat} {values : List Value}
    {before after other : Buffer}
    (written : (writeValues format start number values).apply before = (.ok ⟨⟩, after))
    (size : before.bytes.size ≤ other.bytes.size) :
    after.bytes.size = before.bytes.size ∧
      ∃ result, Rewrites (writeValues format start number values) before after other result := by
  induction values generalizing number before other with
  | nil =>
    cases written
    exact ⟨rfl, other.bytes, rfl, rfl, .refl _ _⟩
  | cons value values ih =>
    rw [writeValues] at written
    obtain ⟨_, between, one, rest⟩ := Edit.bind_ok.mp written
    have step : between.bytes.size = before.bytes.size ∧
        ∃ result, Rewrites (writeValue format start number value) before between other result := by
      cases placed : place? format start number with
      | none =>
        rw [writeValue, placed] at one
        cases one
        refine ⟨rfl, other.bytes, ?_, rfl, .refl _ _⟩
        rw [writeValue, placed]
        rfl
      | some slot =>
        rw [apply_writeValue placed] at one
        split at one
        · rename_i bytes wrote
          cases one
          obtain ⟨kept, result, again, long, imprints⟩ := BitField.writeValue_again wrote size
          refine ⟨kept, result, ?_, long, imprints⟩
          rw [apply_writeValue placed, again]
        · cases one
    obtain ⟨kept, result, first⟩ := step
    have fits : between.bytes.size ≤ ({ other with bytes := result } : Buffer).bytes.size := by
      rw [kept, first.size]
      exact size
    obtain ⟨keptRest, last, next⟩ := ih rest fits
    refine ⟨keptRest.trans kept, last, ?_, next.size.trans first.size,
      first.imprints.trans next.imprints⟩
    rw [writeValues, Edit.apply_bind_of_ok first.again]
    exact next.again

structure Grown (before after : Buffer) : Prop where
  rest : after = { before with elementCount := after.elementCount, bytes := after.bytes }
  count : before.elementCount ≤ after.elementCount
  fitted : before.Fitted → after.Fitted

theorem Grown.refl (buffer : Buffer) : Grown buffer buffer := ⟨rfl, Nat.le_refl _, id⟩

theorem Grown.trans {before between after : Buffer} (first : Grown before between)
    (next : Grown between after) : Grown before after where
  rest := by
    rw [next.rest, first.rest]
  count := Nat.le_trans first.count next.count
  fitted := next.fitted ∘ first.fitted

theorem Grown.format {before after : Buffer} (grown : Grown before after) :
    after.format = before.format := by
  rw [grown.rest]

/-- What was stored in a buffer can be stored in one that has grown from it; where bits change, they
become the same. -/
structure Repeats (operation : Edit Buffer Unit) (before after other : Buffer)
    (result : Array UInt8) : Prop where
  again : operation.apply other = (.ok ⟨⟩, { other with bytes := result })
  size : result.size = other.bytes.size
  bits : ∀ place, bitAt result place = bitAt after.bytes place ∨
    bitAt result place = bitAt other.bytes place ∧
      (before.Fitted → bitAt after.bytes place = bitAt before.bytes place)

private theorem overwrite_again {format : Format} {values : List Value} {offset : Nat}
    {before after other : Buffer}
    (written : (overwrite format ⟨format.size, format.inputCount⟩ values offset).apply before =
      (.ok ⟨⟩, after)) (present : before.format = some format)
    (presentOther : other.format = some format)
    (count : before.elementCount ≤ other.elementCount) (fitted : other.Fitted) :
    after.Fitted ∧ ∃ result,
      (overwrite format ⟨format.size, format.inputCount⟩ values offset).apply other =
        (.ok ⟨⟩, { other with bytes := result }) ∧ result.size = other.bytes.size ∧
      Imprints (resizeBytes before.bytes before.size) after.bytes other.bytes result := by
  rw [apply_overwrite] at written ⊢
  dsimp only at written ⊢
  split at written
  · cases written
  · rename_i room
    let filled := values.length / format.inputCount * format.size
    have more := Nat.mul_le_mul_right format.inputCount count
    rw [if_neg (show ¬other.elementCount * format.inputCount < values.length by omega)]
    have sizes (buffer : Buffer) : (buffer.cleared offset filled).bytes.size = buffer.size := by
      rw [cleared, size_zeroBytes, size_resizeBytes]
    have longer : (before.cleared offset filled).bytes.size ≤
        (other.cleared offset filled).bytes.size := by
      rw [sizes, sizes, size_of_format present, size_of_format presentOther]
      exact Nat.mul_le_mul_right _ count
    obtain ⟨kept, result, again, long, imprints⟩ := writeValues_again written longer
    obtain ⟨bytes, same⟩ :=
      writeValues_keeps format offset 0 values (before.cleared offset filled)
    rw [written] at same
    rw [sizes] at kept long
    have unchanged : resizeBytes other.bytes other.size = other.bytes := by
      rw [← fitted, resizeBytes_size]
    refine ⟨?_, result, again, long.trans fitted.symm, ?_⟩
    · have size := congrArg Buffer.size same
      exact kept.trans size.symm
    · have cleared := imprints_zeroBytes (resizeBytes before.bytes before.size) other.bytes offset
        filled
      unfold Buffer.cleared at imprints
      rw [unchanged] at imprints
      exact cleared.trans imprints

theorem le_countHolding {format : Format} (inputs : 0 < format.inputCount)
    (count offset values : Nat) : count ≤ format.countHolding count offset values := by
  unfold Format.countHolding Format.filledElements
  generalize offset / format.size * format.inputCount + values = needed
  cases format.isPacked with
  | true =>
    dsimp only
    rw [if_pos rfl, if_pos rfl]
    split <;> omega
  | false =>
    dsimp only
    rw [if_neg Bool.false_ne_true, if_neg Bool.false_ne_true]
    split
    · rename_i short
      exact (Nat.le_div_iff_mul_le inputs).mpr (Nat.le_of_lt short)
    · exact Nat.le_refl _

private theorem countHolding_of_le {format : Format} (inputs : 0 < format.inputCount)
    {count larger offset values : Nat} (grown : format.countHolding count offset values ≤ larger) :
    format.countHolding larger offset values = larger := by
  refine Nat.le_antisymm ?_ (le_countHolding inputs larger offset values)
  have before := le_countHolding inputs count offset values
  unfold Format.countHolding Format.filledElements at *
  generalize offset / format.size * format.inputCount + values = needed at *
  cases packed : format.isPacked with
  | true =>
    simp only [packed, if_true] at *
    split <;> split at grown <;> omega
  | false =>
    simp only [packed, Bool.false_eq_true, if_false] at *
    split
    · rename_i short
      split at grown
      · exact grown
      · rename_i enough
        have more := Nat.mul_le_mul_right format.inputCount grown
        omega
    · exact Nat.le_refl _

theorem setDataAt_shaped {values : List Value} {offset : Nat} {before after : Buffer}
    (written : (setDataAt values offset).apply before = (.ok ⟨⟩, after)) :
    ∃ format, before.format = some format ∧ 0 < format.size ∧ 0 < format.inputCount := by
  unfold setDataAt at written
  rw [Edit.apply_bind_of_ok (Edit.apply_get before)] at written
  obtain ⟨format, found, written⟩ := Edit.bind_ofExcept_ok written
  rw [Edit.apply_bind_of_ok (Edit.apply_get before)] at written
  obtain ⟨shape, shaped, -⟩ := Edit.bind_ofExcept_ok written
  exact ⟨format, requireFormat_ok found, (shapeOf_ok shaped).2⟩

/-- Values that were written can be written again into a buffer with as many elements. -/
theorem setDataAt_again {values : List Value} {offset : Nat} {before after other : Buffer}
    (written : (setDataAt values offset).apply before = (.ok ⟨⟩, after))
    (sameFormat : other.format = before.format) (count : after.elementCount ≤ other.elementCount)
    (fitted : other.Fitted) :
    Grown before after ∧ after.Fitted ∧
      ∃ result, Repeats (setDataAt values offset) before after other result := by
  obtain ⟨format, present, bytes, inputs⟩ := setDataAt_shaped written
  have presentOther : other.format = some format := sameFormat.trans present
  rw [apply_setDataAt present bytes inputs] at written
  obtain ⟨_, rfl⟩ := overwrite_ok written
  have holds : other.grown format offset values.length = other := by
    rw [grown, countHolding_of_le inputs count]
  obtain ⟨fittedAfter, result, again, long, imprints⟩ :=
    overwrite_again written present presentOther count fitted
  have more := le_countHolding inputs before.elementCount offset values.length
  have presentGrown : (before.grown format offset values.length).format = some format := present
  have larger : before.size ≤ (before.grown format offset values.length).size := by
    rw [size_of_format present, size_of_format presentGrown]
    exact Nat.mul_le_mul_right _ more
  refine ⟨⟨rfl, more, fun _ => fittedAfter⟩, fittedAfter, result, ?_, long, fun place => ?_⟩
  · rw [apply_setDataAt presentOther bytes inputs, holds]
    exact again
  · refine (imprints place).imp_right (And.imp_right fun leftKept fittedBefore => ?_)
    exact leftKept.trans
      (bitAt_resizeBytes_of_le (Nat.le_trans (Nat.le_of_eq fittedBefore) larger) place)

end Buffer

end GpuScript
