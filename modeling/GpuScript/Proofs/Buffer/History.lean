import GpuScript.Proofs.Buffer.Sizes

namespace GpuScript

namespace Format

/-- The byte behind the last component that values written at a byte reach. -/
def writtenEnd (format : Format) (offset values : Nat) : Nat :=
  match Buffer.place? format offset (values - 1) with
  | some slot => slot.position + bytesFor slot.component.bits
  | none => offset

theorem slotsFrom_end {position : Nat} {segments : List Segment} {slot : Slot}
    (member : slot ∈ slotsFrom position segments) :
    slot.position + bytesFor slot.component.bits ≤
      position + segments.foldr (fun segment bytes => segment.size + bytes) 0 := by
  induction segments generalizing position with
  | nil => cases member
  | cons segment segments ih =>
    rw [List.foldr_cons]
    cases segment with
    | padding bytes =>
      have later := ih member
      omega
    | component component =>
      rcases List.mem_cons.mp member with rfl | member
      · exact Nat.add_le_add_left (Nat.le_add_right _ _) position
      · have later := ih member
        omega

private theorem writtenEnd_le (format : Format) (offset values : Nat) :
    format.writtenEnd offset values ≤
      offset + ((values - 1) / format.inputCount + 1) * format.size := by
  unfold writtenEnd Buffer.place?
  cases found : format.slots[(values - 1) % format.inputCount]? with
  | none => exact Nat.le_add_right _ _
  | some slot =>
    have inside := slotsFrom_end (List.mem_of_getElem? found)
    change offset + (values - 1) / format.inputCount * format.size + slot.position +
      bytesFor slot.component.bits ≤ _
    rw [Nat.succ_mul]
    change _ ≤ 0 + format.size at inside
    omega

private theorem le_filledElements {format : Format} {offset elements : Nat}
    (inputs : 0 < format.inputCount) :
    offset / format.size + elements ≤
      format.filledElements offset (format.inputCount * elements) := by
  unfold filledElements
  split
  · rw [Nat.mul_comm _ format.inputCount, ← Nat.mul_add]
    exact Nat.le_mul_of_pos_left _ inputs
  · apply Nat.le_of_eq
    rw [Nat.mul_comm _ format.inputCount, ← Nat.mul_add, Nat.mul_div_cancel_left _ inputs]

/-- Values that make up whole elements are recorded to their end. -/
theorem writtenEnd_le_filledEnd {format : Format} {offset values : Nat}
    (aligned : (SizeChange.wrote offset values).Aligned format)
    (whole : format.inputCount ∣ values) :
    format.writtenEnd offset values ≤ format.filledEnd offset values := by
  obtain ⟨bytes, inputs, offsetWhole, filled⟩ := aligned
  obtain ⟨elements, rfl⟩ := whole
  have some : 0 < elements := Nat.pos_of_mul_pos_left filled
  have last : (format.inputCount * elements - 1) / format.inputCount + 1 = elements := by
    rw [Nat.mul_sub_div 0 _ _ filled, Nat.zero_div]
    omega
  have start : offset = offset / format.size * format.size :=
    (Nat.div_mul_cancel (Nat.dvd_of_mod_eq_zero offsetWhole)).symm
  have bound := writtenEnd_le format offset (format.inputCount * elements)
  rw [last] at bound
  calc format.writtenEnd offset (format.inputCount * elements)
      ≤ offset + elements * format.size := bound
    _ = (offset / format.size + elements) * format.size := by rw [Nat.add_mul, ← start]
    _ ≤ format.filledEnd offset (format.inputCount * elements) :=
      Nat.mul_le_mul_right _ (le_filledElements inputs)

end Format

namespace SizeChange

def reach (format : Format) : SizeChange → Nat
  | declared _ => 0
  | wrote offset values | pushed offset values => format.filledEnd offset values

def countAfter (format : Format) (count : Nat) : SizeChange → Nat
  | declared count => count
  | wrote _ _ => count
  | pushed offset values => format.countHolding count offset values

def largest (format : Format) : List SizeChange → Nat
  | [] => 0
  | change :: later => max (change.reach format) (largest format later)

def countOver (format : Format) (count : Nat) (history : List SizeChange) : Nat :=
  history.foldl (countAfter format) count

/-- The size that a history records: none while each write stays within the elements there are, and
from the first that does not the farthest. -/
def recordedOver (format : Format) : Nat → List SizeChange → Nat
  | _, [] => 0
  | count, change :: later =>
    if count * format.size < change.reach format then largest format (change :: later)
    else recordedOver format (change.countAfter format count) later

theorem apply_count (change : SizeChange) (format : Format) (sizes : Sizes) :
    (change.apply format sizes).count = change.countAfter format sizes.count := by
  cases change with
  | declared count => rfl
  | wrote offset values => exact sizes.raise_count _ _
  | pushed offset values =>
    exact congrArg (format.countHolding · offset values) (sizes.raise_count _ _)

theorem apply_recorded (change : SizeChange) (format : Format) (sizes : Sizes) :
    (change.apply format sizes).recorded =
      if sizes.maxSize format.size < change.reach format then change.reach format
      else sizes.recorded := by
  cases change with
  | declared count => exact (if_neg (Nat.not_lt_zero _)).symm
  | wrote offset values => exact apply_ite Sizes.recorded _ _ _
  | pushed offset values => exact apply_ite Sizes.recorded _ _ _

private theorem foldl_count (format : Format) (history : List SizeChange) (sizes : Sizes) :
    (history.foldl (fun sizes change => change.apply format sizes) sizes).count =
      countOver format sizes.count history := by
  induction history generalizing sizes with
  | nil => rfl
  | cons change later ih => rw [List.foldl_cons, ih, apply_count]; rfl

/-- Once a size is recorded it only grows, to the farthest that a change reaches. -/
theorem foldl_recorded_of_pos {format : Format} {history : List SizeChange} {sizes : Sizes}
    (positive : sizes.recorded ≠ 0) :
    (history.foldl (fun sizes change => change.apply format sizes) sizes).recorded =
      max sizes.recorded (largest format history) := by
  induction history generalizing sizes with
  | nil => exact (Nat.max_zero _).symm
  | cons change later ih =>
    have reached : (change.apply format sizes).recorded =
        max sizes.recorded (change.reach format) := by
      rw [apply_recorded, Sizes.maxSize, if_pos positive]
      split <;> omega
    rw [List.foldl_cons, ih (by rw [reached]; omega), reached, largest, Nat.max_assoc]

private theorem foldl_recorded {format : Format} {history : List SizeChange} {sizes : Sizes}
    (fresh : sizes.recorded = 0) :
    (history.foldl (fun sizes change => change.apply format sizes) sizes).recorded =
      recordedOver format sizes.count history := by
  induction history generalizing sizes with
  | nil => exact fresh
  | cons change later ih =>
    have reached := apply_recorded change format sizes
    rw [Sizes.maxSize, if_neg (Decidable.not_not.mpr fresh)] at reached
    rw [List.foldl_cons, recordedOver]
    split at reached
    · rename_i outgrown
      rw [if_pos outgrown, foldl_recorded_of_pos (by rw [reached]; omega), reached, largest]
    · rename_i kept
      rw [if_neg kept, ih (reached.trans fresh), apply_count]

/-- The sizes that a history makes of a buffer that begins with some elements and no recorded
size. -/
theorem foldl_apply (format : Format) (history : List SizeChange) (count : Nat) :
    history.foldl (fun sizes change => change.apply format sizes) ⟨count, 0⟩ =
      ⟨countOver format count history, recordedOver format count history⟩ := by
  have counted := foldl_count format history ⟨count, 0⟩
  have recorded := @foldl_recorded format history ⟨count, 0⟩ rfl
  rw [← counted, ← recorded]

/-- The size that a history comes to is covered by the size it records, if it records any, and each
write ends within the recorded size, or else within the last one. -/
structure Sound (format : Format) (count : Nat) (history : List SizeChange) : Prop where
  size : recordedOver format count history = 0 ∨
    countOver format count history * format.size ≤ recordedOver format count history
  writes : ∀ offset values, wrote offset values ∈ history →
    format.writtenEnd offset values ≤ recordedOver format count history ∨
      recordedOver format count history = 0 ∧
        format.writtenEnd offset values ≤ countOver format count history * format.size

private theorem countOver_steady {format : Format} {count : Nat} {history : List SizeChange}
    (steady : ∀ change ∈ history, change.countAfter format count = count) :
    countOver format count history = count := by
  induction history with
  | nil => rfl
  | cons change later ih =>
    rw [countOver, List.foldl_cons, steady change List.mem_cons_self]
    exact ih fun other member => steady other (List.mem_cons_of_mem _ member)

private theorem reach_le_largest {format : Format} {history : List SizeChange} {change : SizeChange}
    (member : change ∈ history) : change.reach format ≤ largest format history := by
  induction history with
  | nil => cases member
  | cons first later ih =>
    rcases List.mem_cons.mp member with rfl | member
    · exact Nat.le_max_left _ _
    · exact Nat.le_trans (ih member) (Nat.le_max_right _ _)

theorem recordedOver_declared_append {format : Format} {declarations : List SizeChange}
    (declared : ∀ change ∈ declarations, change.isWrite = false) (count : Nat)
    (later : List SizeChange) :
    recordedOver format count (declarations ++ later) =
      recordedOver format (countOver format count declarations) later := by
  induction declarations generalizing count with
  | nil => rfl
  | cons change declarations ih =>
    have first := declared change List.mem_cons_self
    cases change with
    | declared size =>
      have quiet : ¬count * format.size < reach format (.declared size) := Nat.not_lt_zero _
      rw [List.cons_append, recordedOver, if_neg quiet]
      exact ih (fun other member => declared other (List.mem_cons_of_mem _ member)) size
    | wrote => cases first
    | pushed => cases first

/-- Where no size is declared, what changes reach is recorded, or within the size there is. -/
theorem reach_le_recordedOver {format : Format} {count : Nat} {history : List SizeChange}
    (steady : ∀ change ∈ history, change.countAfter format count = count) :
    (recordedOver format count history = 0 ∨
        count * format.size ≤ recordedOver format count history) ∧
      ∀ change ∈ history, change.reach format ≤ recordedOver format count history ∨
        recordedOver format count history = 0 ∧ change.reach format ≤ count * format.size := by
  induction history with
  | nil => exact ⟨.inl rfl, fun _ member => (by cases member)⟩
  | cons change later ih =>
    have kept := steady change List.mem_cons_self
    obtain ⟨size, reaches⟩ := ih fun other member => steady other (List.mem_cons_of_mem _ member)
    rw [recordedOver, kept]
    split
    · rename_i outgrown
      have first : change.reach format ≤ largest format (change :: later) :=
        reach_le_largest List.mem_cons_self
      exact ⟨.inr (by omega), fun other member => .inl (reach_le_largest member)⟩
    · rename_i within
      refine ⟨size, fun other member => ?_⟩
      rcases List.mem_cons.mp member with rfl | member
      · omega
      · exact reaches other member

/-- A history is sound that declares sizes first and then writes whole elements. -/
theorem sound_of_declared_first {format : Format} {declarations writes : List SizeChange}
    (declared : ∀ change ∈ declarations, change.isWrite = false)
    (whole : ∀ change ∈ writes, ∃ offset values, change = wrote offset values ∧
      change.Aligned format ∧ format.inputCount ∣ values) (count : Nat) :
    Sound format count (declarations ++ writes) := by
  have steady : ∀ change ∈ writes,
      change.countAfter format (countOver format count declarations) =
        countOver format count declarations := by
    intro change member
    obtain ⟨offset, values, rfl, -, -⟩ := whole change member
    rfl
  have counted : countOver format count (declarations ++ writes) =
      countOver format count declarations := by
    rw [countOver, List.foldl_append]
    exact countOver_steady steady
  obtain ⟨size, reaches⟩ := reach_le_recordedOver steady
  rw [← recordedOver_declared_append declared, ← counted] at size reaches
  refine ⟨size, fun offset values member => ?_⟩
  have written : wrote offset values ∈ writes := by
    rcases List.mem_append.mp member with early | late
    · cases declared _ early
    · exact late
  obtain ⟨offset', values', same, aligned, divides⟩ := whole _ written
  obtain ⟨rfl, rfl⟩ := wrote.inj same
  have filled := Format.writtenEnd_le_filledEnd aligned divides
  rcases reaches _ written with recorded | ⟨none, within⟩
  · exact .inl (Nat.le_trans filled recorded)
  · exact .inr ⟨none, Nat.le_trans filled within⟩

end SizeChange

end GpuScript
