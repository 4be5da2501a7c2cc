import GpuScript.Buffer.Comparison
import GpuScript.Proofs.Buffer.Writing
import GpuScript.Proofs.Format.Sizes
import Mathlib.Algebra.GroupWithZero.Nat

/-! Histograms of a channel. The count walks over all segments of all elements with a position and a
component number of its own; the number is back at zero at the end of each element, and the position
at its end. So each element is counted once, by the byte that begins its component. -/
namespace GpuScript

theorem Segment.total_lt_size {format : Format} {before after : List Segment}
    {component : Component} (split : format.segments = before ++ .component component :: after)
    (wide : 0 < component.bits) : total before < format.size := by
  have bytes : 0 < (Segment.component component).size := by
    unfold Segment.size Segment.bits bytesFor
    dsimp only
    omega
  rw [← format.total_segments, split, total_append, total_cons]
  omega

namespace Buffer

/-- Numbers of occurrences, raised by those of more bytes. -/
private def tallied (bins : Array Nat) (bytes : List UInt8) : Array Nat :=
  bytes.foldl (fun bins byte => bins.modify byte.toNat (· + 1)) bins

private theorem tallied_cons (bins : Array Nat) (byte : UInt8) (rest : List UInt8) :
    tallied bins (byte :: rest) = tallied (bins.modify byte.toNat (· + 1)) rest := rfl

private theorem size_tallied (bins : Array Nat) (bytes : List UInt8) :
    (tallied bins bytes).size = bins.size := by
  induction bytes generalizing bins with
  | nil => rfl
  | cons byte rest ih => rw [tallied_cons, ih, Array.size_modify]

private theorem getElem?_tallied (bins : Array Nat) (bytes : List UInt8) (value : UInt8) :
    (tallied bins bytes)[value.toNat]? = (bins[value.toNat]?).map (· + bytes.count value) := by
  induction bytes generalizing bins with
  | nil => simp [tallied]
  | cons byte rest ih =>
    rw [tallied_cons, ih, Array.getElem?_modify, List.count_cons]
    by_cases same : byte = value
    · subst same
      simp [Function.comp_def, Nat.add_assoc, Nat.add_comm 1]
    · have apart : byte.toNat ≠ value.toNat := mt UInt8.toNat_inj.mp same
      simp [apart, same]

theorem sum_modify_succ {numbers : List Nat} {index : Nat} (inside : index < numbers.length) :
    (numbers.modify index (· + 1)).sum = numbers.sum + 1 := by
  induction numbers generalizing index with
  | nil => exact absurd inside (Nat.not_lt_zero index)
  | cons number rest ih =>
    cases index with
    | zero =>
      rw [List.modify_zero_cons, List.sum_cons, List.sum_cons]
      omega
    | succ index =>
      rw [List.modify_succ_cons, List.sum_cons, List.sum_cons, ih (Nat.lt_of_succ_lt_succ inside),
        Nat.add_assoc]

private theorem sum_tallied {bins : Array Nat} (full : bins.size = 256) (bytes : List UInt8) :
    (tallied bins bytes).toList.sum = bins.toList.sum + bytes.length := by
  induction bytes generalizing bins with
  | nil => rfl
  | cons byte rest ih =>
    have inside : byte.toNat < bins.toList.length := by
      rw [Array.length_toList, full]
      exact byte.toNat_lt
    rw [tallied_cons, ih (Array.size_modify.trans full), Array.toList_modify,
      sum_modify_succ inside, List.length_cons, Nat.add_assoc, Nat.add_comm 1]

section Walk

variable {buffer : Buffer} {channels channel position number : Nat} {bins : Array Nat}

private theorem countSegment_padding (bytes : Nat) :
    buffer.countSegment channels channel ⟨position, number, bins⟩ (.padding bytes) =
      .ok ⟨position + (Segment.padding bytes).size, number, bins⟩ := rfl

private theorem countSegment_apart (apart : number ≠ channel) (component : Component) :
    buffer.countSegment channels channel ⟨position, number, bins⟩ (.component component) =
      .ok ⟨position + (Segment.component component).size, (number + 1) % channels, bins⟩ :=
  if_neg apart

theorem countSegment_at {byte : UInt8} (held : buffer.bytes[position]? = some byte)
    (component : Component) :
    buffer.countSegment channels channel ⟨position, channel, bins⟩ (.component component) =
      .ok ⟨position + (Segment.component component).size, (channel + 1) % channels,
        bins.modify byte.toNat (· + 1)⟩ := by
  have found : buffer.byteAt position = .ok byte := by
    rw [byteAt, held]
  refine (if_pos rfl).trans ?_
  rw [found]
  rfl

/-- Segments without the component of the channel are passed: the position goes to their end, and
the component number is counted on. -/
theorem countSegments_apart {segments : List Segment} {passed : Nat}
    (room : passed + (segments.filter (!·.isPadding)).length ≤ channels)
    (apart : channel < passed ∨ passed + (segments.filter (!·.isPadding)).length ≤ channel) :
    segments.foldlM (buffer.countSegment channels channel) ⟨position, passed % channels, bins⟩ =
      .ok ⟨position + Segment.total segments,
        (passed + (segments.filter (!·.isPadding)).length) % channels, bins⟩ := by
  induction segments generalizing position passed with
  | nil => rfl
  | cons segment rest ih =>
    rw [List.foldlM_cons]
    cases segment with
    | padding bytes =>
      rw [countSegment_padding]
      refine (ih room apart).trans ?_
      rw [Segment.total_cons, Nat.add_assoc]
      rfl
    | component component =>
      have count : ((Segment.component component :: rest).filter (!·.isPadding)).length =
          (rest.filter (!·.isPadding)).length + 1 := rfl
      rw [count] at room apart ⊢
      have other : passed % channels ≠ channel := by
        rw [Nat.mod_eq_of_lt (by omega)]
        omega
      rw [countSegment_apart other, Nat.mod_add_mod]
      refine (ih (by omega) (by omega)).trans ?_
      rw [Segment.total_cons, Nat.add_assoc, Nat.add_assoc passed, Nat.add_comm 1]

variable {format : Format} {before after : List Segment} {component : Component}

/-- An element has the byte counted that begins its component of the channel. -/
theorem countSegments_element (split : format.segments = before ++ .component component :: after)
    (number : (before.filter (!·.isPadding)).length = channel) {byte : UInt8}
    (held : buffer.bytes[position + Segment.total before]? = some byte) :
    format.segments.foldlM (buffer.countSegment format.inputCount channel) ⟨position, 0, bins⟩ =
      .ok ⟨position + format.size, 0, bins.modify byte.toNat (· + 1)⟩ := by
  have inputs : format.inputCount = channel + 1 + (after.filter (!·.isPadding)).length := by
    rw [Format.inputCount, split, List.filter_append, List.length_append, number, Nat.add_assoc,
      Nat.add_comm 1]
    rfl
  have size : format.size =
      Segment.total before + ((Segment.component component).size + Segment.total after) := by
    rw [← Segment.total_cons, ← Segment.total_append, ← split, format.total_segments]
  have front : before.foldlM (buffer.countSegment format.inputCount channel) ⟨position, 0, bins⟩ =
      .ok ⟨position + Segment.total before, channel, bins⟩ := by
    have passed : before.foldlM (buffer.countSegment format.inputCount channel)
        ⟨position, 0 % format.inputCount, bins⟩ = _ := countSegments_apart (by omega) (by omega)
    rwa [Nat.zero_mod, Nat.zero_add, number, Nat.mod_eq_of_lt (by omega)] at passed
  have back : (.component component :: after).foldlM
      (buffer.countSegment format.inputCount channel)
      ⟨position + Segment.total before, channel, bins⟩ =
        .ok ⟨position + format.size, 0, bins.modify byte.toNat (· + 1)⟩ := by
    rw [List.foldlM_cons, countSegment_at held]
    -- The number of the next component goes back to zero behind the last one.
    refine (countSegments_apart (by omega) (by omega)).trans ?_
    rw [← inputs, Nat.mod_self, size, Nat.add_assoc, Nat.add_assoc]
  rw [split, List.foldlM_append, front]
  exact back

private theorem countElements_eq (split : format.segments = before ++ .component component :: after)
    (number : (before.filter (!·.isPadding)).length = channel) {lead : Nat → UInt8}
    {first elements : Nat}
    (held : ∀ element ∈ List.range' first elements,
      buffer.bytes[element * format.size + Segment.total before]? = some (lead element)) :
    buffer.countElements format channel elements ⟨first * format.size, 0, bins⟩ =
      .ok ⟨(first + elements) * format.size, 0,
        tallied bins ((List.range' first elements).map lead)⟩ := by
  induction elements generalizing first bins with
  | zero => rfl
  | succ elements ih =>
    rw [List.range'_succ] at held ⊢
    obtain ⟨here, later⟩ := List.forall_mem_cons.mp held
    have one : format.segments.foldlM (buffer.countSegment format.inputCount channel)
        ⟨first * format.size, 0, bins⟩ = _ := countSegments_element split number here
    rw [← Nat.succ_mul] at one
    rw [countElements, one]
    refine (ih later).trans ?_
    rw [Nat.add_assoc, Nat.add_comm 1]
    rfl

end Walk

/-- Each channel below the number of values has its component. -/
theorem exists_component {segments : List Segment} {channel : Nat}
    (known : channel < (segments.filter (!·.isPadding)).length) :
    ∃ before component after, segments = before ++ .component component :: after ∧
      (before.filter (!·.isPadding)).length = channel := by
  induction segments generalizing channel with
  | nil => exact absurd known (Nat.not_lt_zero channel)
  | cons segment rest ih =>
    cases segment with
    | padding bytes =>
      obtain ⟨before, component, after, split, number⟩ := ih known
      exact ⟨.padding bytes :: before, component, after, congrArg _ split, number⟩
    | component first =>
      cases channel with
      | zero => exact ⟨[], first, rest, rfl, rfl⟩
      | succ channel =>
        obtain ⟨before, component, after, split, number⟩ := ih (Nat.lt_of_succ_lt_succ known)
        exact ⟨.component first :: before, component, after, congrArg _ split,
          congrArg Nat.succ number⟩

/-- How often each byte value stands at a place of the elements. -/
structure IsHistogram (buffer : Buffer) (place : Nat → Nat) (bins : Array Nat) : Prop where
  size : bins.size = 256
  counted : ∀ value : UInt8, bins[value.toNat]? =
    some ((List.range buffer.elementCount).countP fun element =>
      buffer.bytes[place element]? = some value)
  whole : bins.toList.sum = buffer.elementCount

private theorem isHistogram_tallied {buffer : Buffer} {place : Nat → Nat} {lead : Nat → UInt8}
    (held : ∀ element ∈ List.range buffer.elementCount,
      buffer.bytes[place element]? = some (lead element)) :
    IsHistogram buffer place
      (tallied (Array.replicate 256 0) ((List.range buffer.elementCount).map lead)) := by
  refine ⟨?_, fun value => ?_, ?_⟩
  · rw [size_tallied, Array.size_replicate]
  · rw [getElem?_tallied, Array.getElem?_replicate, if_pos value.toNat_lt, Option.map_some,
      Nat.zero_add, List.count, List.countP_map]
    refine congrArg some (List.countP_congr fun element member => ?_)
    rw [held element member]
    simp
  · rw [sum_tallied Array.size_replicate, Array.toList_replicate, List.sum_replicate_nat,
      Nat.mul_zero, Nat.zero_add, List.length_map, List.length_range]

/-- The histogram of a channel of a buffer that has the bytes of its elements has 256 bins. Each is
the number of the elements in which the component of the channel, which stands behind its earlier
segments, begins with the byte value of the bin; and each element is counted once. -/
theorem histogram_exact {buffer : Buffer} {format : Format} (present : buffer.format = some format)
    (wide : ∀ segment ∈ format.segments, segment.isPadding = false → 0 < segment.bits)
    (held : buffer.size ≤ buffer.bytes.size) {channel : Nat} (known : channel < format.inputCount) :
    ∃ before component after bins,
      format.segments = before ++ .component component :: after ∧
        (before.filter (!·.isPadding)).length = channel ∧ buffer.histogram channel = .ok bins ∧
        buffer.IsHistogram (fun element => element * format.size + Segment.total before) bins := by
  obtain ⟨before, component, after, split, number⟩ := exists_component known
  have member := split ▸ List.mem_append_right before List.mem_cons_self
  have inside := Segment.total_lt_size split (wide (.component component) member rfl)
  have each : ∀ element ∈ List.range buffer.elementCount,
      buffer.bytes[element * format.size + Segment.total before]? =
        some (buffer.bytes.getD (element * format.size + Segment.total before) 0) := by
    intro element member
    have rows := Nat.mul_le_mul_right format.size (Nat.succ_le_of_lt (List.mem_range.mp member))
    rw [Nat.succ_mul, ← size_of_format present] at rows
    have bound : element * format.size + Segment.total before < buffer.bytes.size := by omega
    rw [Array.getElem?_eq_getElem bound, Array.getD_eq_getD_getElem?,
      Array.getElem?_eq_getElem bound, Option.getD_some]
  have walked : buffer.countElements format channel buffer.elementCount
      ⟨0 * format.size, 0, Array.replicate 256 0⟩ = _ :=
    countElements_eq split number (List.range_eq_range' ▸ each)
  rw [Nat.zero_mul, ← List.range_eq_range'] at walked
  refine ⟨before, component, after, _, split, number, ?_, isHistogram_tallied each⟩
  rw [histogram, requireFormat_of_format present]
  exact congrArg (·.map Counting.bins) walked

/-- The second of three bytes, with a byte of padding behind them, in two elements. -/
theorem histogram_exact_padded :
    let format : Format := { type := .number { mode := .unsignedInt, bits := 8, rows := 3 } }
    let buffer : Buffer :=
      { name := "colors"
        format := some format
        elementCount := 2
        bytes := #[1, 5, 3, 0, 5, 5, 7, 0] }
    buffer.format = some format ∧
      (∀ segment ∈ format.segments, segment.isPadding = false → 0 < segment.bits) ∧
      buffer.size ≤ buffer.bytes.size ∧ 1 < format.inputCount ∧
      ∃ bins, buffer.histogram 1 = .ok bins ∧ bins.size = 256 ∧ bins[5]? = some 2 ∧
        bins.toList.sum = 2 := by
  intro format buffer
  have wide : ∀ segment ∈ format.segments, segment.isPadding = false → 0 < segment.bits := by
    decide
  have held : buffer.size ≤ buffer.bytes.size := by decide
  have known : 1 < format.inputCount := by decide
  obtain ⟨before, component, after, bins, split, number, counted, histogram⟩ :=
    @histogram_exact buffer format rfl wide held 1 known
  have five : (buffer.histogram 1).toOption.bind (·[5]?) = some 2 := by decide +kernel
  rw [counted] at five
  exact ⟨rfl, wide, held, known, bins, counted, histogram.size, five, histogram.whole⟩

end Buffer

end GpuScript
