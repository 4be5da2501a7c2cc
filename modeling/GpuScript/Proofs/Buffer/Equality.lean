import GpuScript.Buffer.Comparison
import GpuScript.Proofs.Buffer.Writing

/-! Buffers compared byte by byte. The comparison goes as far as the bytes of both buffers reach,
reports the first place where they differ, and counts all such places. Bytes that only one of the
buffers has are not looked at, so it is exact for buffers that have as many bytes as their elements
take. -/
namespace GpuScript

namespace Buffer

/-- Nothing keeps two buffers apart if they have a common format, size and extent: then they have
room for the same number of values too. -/
theorem mismatch?_eq_none_iff {left right : Buffer} :
    left.mismatch? right = none ↔
      left.format.isSome ∧ right.format = left.format ∧ right.elementCount = left.elementCount ∧
        right.width = left.width ∧ right.height = left.height := by
  unfold mismatch?
  constructor
  · intro none
    split at none
    · cases none
    split at none
    · cases none
    split at none
    · cases none
    split at none
    · cases none
    rename_i format count width height
    obtain ⟨present, same⟩ := not_or.mp format
    exact ⟨Option.isSome_iff_ne_none.mpr (mt Option.isNone_iff_eq_none.mpr present),
      Decidable.not_not.mp same, Decidable.not_not.mp count, Decidable.not_not.mp width, Decidable.not_not.mp height⟩
  · rintro ⟨present, format, count, width, height⟩
    have values : right.valueCount = left.valueCount := by
      rw [valueCount, valueCount, format, count]
    have known : ¬(left.format.isNone = true ∨ right.format ≠ left.format) := by
      rw [← Option.not_isSome, not_or]
      exact ⟨by simp [present], Decidable.not_not.mpr format⟩
    rw [if_neg known, if_neg (Decidable.not_not.mpr count), if_neg (Decidable.not_not.mpr width),
      if_neg (Decidable.not_not.mpr height), if_neg (Decidable.not_not.mpr values)]

theorem checkCompatible_ok_iff {left right : Buffer} :
    left.checkCompatible right = .ok ⟨⟩ ↔ left.mismatch? right = none := by
  unfold checkCompatible
  cases left.mismatch? right <;> simp

/-- Both buffers have a byte at a position, and the two differ. -/
def DiffersAt (left right : Buffer) (position : Nat) : Prop :=
  ∃ a ∈ left.bytes[position]?, ∃ b ∈ right.bytes[position]?, a ≠ b

instance (left right : Buffer) (position : Nat) : Decidable (left.DiffersAt right position) :=
  inferInstanceAs (Decidable (∃ a ∈ left.bytes[position]?, ∃ b ∈ right.bytes[position]?, a ≠ b))

/-- The difference at an index of two rows that begin at a position. -/
private def difference? (start : Nat) (left right : List UInt8) (index : Nat) :
    Option ByteDifference :=
  match left[index]?, right[index]? with
  | some a, some b => if a = b then none else some ⟨start + index, a, b⟩
  | _, _ => none

private theorem differencesFrom_eq (start : Nat) (left right : List UInt8) :
    differencesFrom start left right =
      (List.range (min left.length right.length)).filterMap (difference? start left right) := by
  induction left generalizing start right with
  | nil => simp [differencesFrom]
  | cons a lefts ih =>
    cases right with
    | nil => simp [differencesFrom]
    | cons b rights =>
      have later : difference? start (a :: lefts) (b :: rights) ∘ Nat.succ =
          difference? (start + 1) lefts rights := by
        funext index
        simp only [difference?, Function.comp_apply, List.getElem?_cons_succ, Nat.succ_eq_add_one,
          Nat.add_assoc, Nat.add_comm 1]
      rw [differencesFrom, List.length_cons, List.length_cons, Nat.add_min_add_right,
        List.range_succ_eq_map, List.filterMap_cons, List.filterMap_map, later, ← ih]
      by_cases same : a = b
      · simp [difference?, same]
      · simp [difference?, same]

private theorem difference?_eq_some_iff {start : Nat} {left right : List UInt8} {index : Nat}
    {difference : ByteDifference} :
    difference? start left right index = some difference ↔
      difference.position = start + index ∧ left[index]? = some difference.left ∧
        right[index]? = some difference.right ∧ difference.left ≠ difference.right := by
  unfold difference?
  obtain ⟨position, a, b⟩ := difference
  split
  · rename_i first second leftByte rightByte
    rw [leftByte, rightByte]
    split
    · rename_i same
      simp only [reduceCtorEq, Option.some.injEq, false_iff, not_and]
      rintro - rfl rfl
      exact Decidable.not_not.mpr same
    · rename_i apart
      simp only [Option.some.injEq, ByteDifference.mk.injEq]
      constructor
      · rintro ⟨rfl, rfl, rfl⟩
        exact ⟨rfl, rfl, rfl, apart⟩
      · rintro ⟨rfl, rfl, rfl, -⟩
        exact ⟨rfl, rfl, rfl⟩
  · rename_i short
    refine iff_of_false (fun some => nomatch some) fun found => ?_
    exact short _ _ found.2.1 found.2.2.1

section Differences

variable {left right : Buffer}

private theorem differsAt_iff {position : Nat} :
    left.DiffersAt right position ↔
      (difference? 0 left.bytes.toList right.bytes.toList position).isSome := by
  rw [Option.isSome_iff_exists]
  simp only [difference?_eq_some_iff, Array.getElem?_toList]
  constructor
  · rintro ⟨a, leftByte, b, rightByte, apart⟩
    exact ⟨⟨position, a, b⟩, (Nat.zero_add _).symm, leftByte, rightByte, apart⟩
  · rintro ⟨difference, -, leftByte, rightByte, apart⟩
    exact ⟨_, leftByte, _, rightByte, apart⟩

theorem DiffersAt.lt {position : Nat} (differs : left.DiffersAt right position) :
    position < min left.bytes.size right.bytes.size := by
  obtain ⟨a, leftByte, b, rightByte, -⟩ := differs
  obtain ⟨leftBound, -⟩ := Array.getElem?_eq_some_iff.mp leftByte
  obtain ⟨rightBound, -⟩ := Array.getElem?_eq_some_iff.mp rightByte
  exact Nat.lt_min.mpr ⟨leftBound, rightBound⟩

theorem bytes_eq_iff :
    left.bytes = right.bytes ↔
      left.bytes.size = right.bytes.size ∧ ∀ position, ¬left.DiffersAt right position := by
  constructor
  · intro same
    refine ⟨congrArg Array.size same, ?_⟩
    rintro position ⟨a, leftByte, b, rightByte, apart⟩
    rw [same] at leftByte
    exact apart (Option.mem_unique leftByte rightByte)
  · rintro ⟨size, same⟩
    refine Array.ext size fun index leftBound rightBound => ?_
    refine Decidable.byContradiction fun apart => ?_
    exact same index ⟨_, Array.getElem?_eq_getElem leftBound, _,
      Array.getElem?_eq_getElem rightBound, apart⟩

def differenceCount (left right : Buffer) : Nat :=
  (List.range (min left.bytes.size right.bytes.size)).countP fun position =>
    left.DiffersAt right position

private theorem length_differencesFrom :
    (differencesFrom 0 left.bytes.toList right.bytes.toList).length =
      left.differenceCount right := by
  rw [differencesFrom_eq, List.length_filterMap_eq_countP, Array.length_toList, Array.length_toList]
  refine List.countP_congr fun position _ => ?_
  rw [decide_eq_true_iff, differsAt_iff]

theorem differencesFrom_eq_nil_iff :
    differencesFrom 0 left.bytes.toList right.bytes.toList = [] ↔
      ∀ position, ¬left.DiffersAt right position := by
  rw [differencesFrom_eq, List.filterMap_eq_nil_iff]
  simp only [differsAt_iff, Option.not_isSome_iff_eq_none]
  constructor
  · intro none position
    refine Decidable.byContradiction fun some => ?_
    have differs := differsAt_iff.mpr (Option.isSome_iff_ne_none.mpr some)
    exact some (none position (List.mem_range.mpr differs.lt))
  · exact fun none position _ => none position

private theorem first_differencesFrom {first : ByteDifference} {rest : List ByteDifference}
    (found : differencesFrom 0 left.bytes.toList right.bytes.toList = first :: rest) :
    left.bytes[first.position]? = some first.left ∧
      right.bytes[first.position]? = some first.right ∧ first.left ≠ first.right ∧
      ∀ position < first.position, ¬left.DiffersAt right position := by
  rw [differencesFrom_eq, List.filterMap_eq_cons_iff] at found
  obtain ⟨before, position, after, positions, none, some, -⟩ := found
  obtain ⟨place, leftByte, rightByte, apart⟩ := difference?_eq_some_iff.mp some
  -- What stands before the first difference in the range are all earlier positions.
  rw [List.range_eq_range', List.range'_eq_append_iff] at positions
  obtain ⟨count, -, earlier, later⟩ := positions
  obtain ⟨start, -, -⟩ := List.range'_eq_cons_iff.mp later.symm
  rw [Array.getElem?_toList] at leftByte rightByte
  have here : first.position = position := place.trans (Nat.zero_add _)
  rw [here]
  refine ⟨leftByte, rightByte, apart, fun other less => ?_⟩
  rw [differsAt_iff, Option.not_isSome_iff_eq_none]
  refine none other ?_
  rw [earlier, List.mem_range'_1]
  omega

end Differences

/-- Compatible buffers are compared as far as the bytes of both reach. -/
theorem checkEqual_of_compatible {left right : Buffer}
    (compatible : left.checkCompatible right = .ok ⟨⟩) :
    left.checkEqual right =
      match differencesFrom 0 left.bytes.toList right.bytes.toList with
      | [] => .ok ⟨⟩
      | first :: rest =>
        .error (.buffer (.bytesDiffer (rest.length + 1) first.position first.left first.right)) := by
  unfold checkEqual
  rw [compatible]
  cases differencesFrom 0 left.bytes.toList right.bytes.toList <;> rfl

theorem checkEqual_of_incompatible {left right : Buffer} {fault : Fault}
    (incompatible : left.checkCompatible right = .error fault) :
    left.checkEqual right = .error fault := by
  unfold checkEqual
  rw [incompatible]
  rfl

theorem checkEqual_ok_iff {left right : Buffer} :
    left.checkEqual right = .ok ⟨⟩ ↔
      left.checkCompatible right = .ok ⟨⟩ ∧ ∀ position, ¬left.DiffersAt right position := by
  rw [← differencesFrom_eq_nil_iff]
  cases compatible : left.checkCompatible right with
  | error fault =>
    rw [checkEqual_of_incompatible compatible]
    simp
  | ok =>
    rw [checkEqual_of_compatible compatible]
    cases differencesFrom 0 left.bytes.toList right.bytes.toList <;> simp

/-- Two buffers are found equal if they are compatible and differ at no position that both reach.
That they have the same bytes follows unless their numbers of bytes are different. The fault that is
reported otherwise is that of the compatibility, or else it has the first position at which the
buffers differ with both bytes, and the number of such positions. -/
theorem checkEqual_exact_iff (left right : Buffer) :
    (left.checkEqual right = .ok ⟨⟩ ↔
        left.checkCompatible right = .ok ⟨⟩ ∧ ∀ position, ¬left.DiffersAt right position) ∧
      ((left.checkEqual right = .ok ⟨⟩ ↔
          left.checkCompatible right = .ok ⟨⟩ ∧ left.bytes = right.bytes) ↔
        (left.checkCompatible right = .ok ⟨⟩ → (∀ position, ¬left.DiffersAt right position) →
          left.bytes.size = right.bytes.size)) ∧
      ∀ fault, left.checkEqual right = .error fault →
        left.checkCompatible right = .error fault ∨
          left.checkCompatible right = .ok ⟨⟩ ∧ ∃ first a b,
            left.bytes[first]? = some a ∧ right.bytes[first]? = some b ∧ a ≠ b ∧
              (∀ position < first, ¬left.DiffersAt right position) ∧
              fault = .buffer (.bytesDiffer (left.differenceCount right) first a b) := by
  refine ⟨checkEqual_ok_iff, ?_, fun fault refused => ?_⟩
  · rw [checkEqual_ok_iff, bytes_eq_iff]
    constructor
    · intro exact compatible same
      exact (exact.mp ⟨compatible, same⟩).2.1
    · intro sizes
      refine and_congr_right fun compatible => ?_
      exact ⟨fun same => ⟨sizes compatible same, same⟩, And.right⟩
  · cases compatible : left.checkCompatible right with
    | error other =>
      rw [checkEqual_of_incompatible compatible] at refused
      exact .inl refused
    | ok =>
      refine .inr ⟨rfl, ?_⟩
      rw [checkEqual_of_compatible compatible] at refused
      cases found : differencesFrom 0 left.bytes.toList right.bytes.toList with
      | nil =>
        rw [found] at refused
        cases refused
      | cons first rest =>
        rw [found] at refused
        cases refused
        have count := (congrArg List.length found).symm.trans length_differencesFrom
        obtain ⟨leftByte, rightByte, apart, earlier⟩ := first_differencesFrom found
        rw [List.length_cons] at count
        exact ⟨_, _, _, leftByte, rightByte, apart, earlier, by rw [count]⟩

/-- Three bytes of which the last two differ. -/
theorem checkEqual_exact_iff_bytes :
    let format : Format := { type := .number { mode := .unsignedInt, bits := 8 } }
    let left : Buffer :=
      { name := "left", format := some format, elementCount := 3, bytes := #[1, 2, 3] }
    let right : Buffer := { left with name := "right", bytes := #[1, 5, 4] }
    left.checkEqual right = .error (.buffer (.bytesDiffer 2 1 2 5)) ∧
      (left.checkEqual right = .ok ⟨⟩ ↔
        left.checkCompatible right = .ok ⟨⟩ ∧ left.bytes = right.bytes) := by
  intro format left right
  have checked : left.checkEqual right = .error (.buffer (.bytesDiffer 2 1 2 5)) := rfl
  obtain ⟨-, exact, -⟩ := checkEqual_exact_iff left right
  exact ⟨checked, exact.mpr fun _ _ => rfl⟩

/-- A buffer whose elements have been counted before they were written is found equal to one that
has a byte. -/
theorem checkEqual_counted :
    let format : Format := { type := .number { mode := .unsignedInt, bits := 8 } }
    let left : Buffer :=
      { name := "left", format := some format, elementCount := 1, bytes := #[1] }
    let right : Buffer := { left with name := "right", bytes := #[] }
    left.checkCompatible right = .ok ⟨⟩ ∧ left.checkEqual right = .ok ⟨⟩ ∧
      left.bytes ≠ right.bytes := by
  intro format left right
  exact ⟨rfl, rfl, by decide⟩

end Buffer

end GpuScript
