import GpuScript.Proofs.Pipeline.Arguments

/-! Two encoders of one value. The bytes of a kernel argument are those of a pattern that its kind
and size pick; a buffer stores a value in the representation of its component. For a scalar format
the two agree exactly where the patterns do. -/
namespace GpuScript

def Format.scalar (mode : Mode) (bits : Nat) (layout : Layout) (tag : Option ImageFormat) :
    Format :=
  ⟨.number { mode, bits }, layout, tag⟩

def Mode.HasWidth (mode : Mode) (bits : Nat) : Prop :=
  if mode.isFloat then bits ∈ [16, 32, 64] else bits ∈ [8, 16, 32, 64]

instance (mode : Mode) (bits : Nat) : Decidable (mode.HasWidth bits) :=
  inferInstanceAs (Decidable (if mode.isFloat then bits ∈ [16, 32, 64] else bits ∈ [8, 16, 32, 64]))

namespace ArgumentValue

/-- The number whose bytes are the storage of the value. -/
def pattern (argument : ArgumentValue) : Nat :=
  match argument.value with
  | .integer bits => bits.toNat
  | .double value =>
    if argument.format.size = 8 then value.bits.toNat else value.toSingle.bits.toNat

private theorem pattern_lt (argument : ArgumentValue) : argument.pattern < 2 ^ 64 := by
  unfold pattern
  split
  · exact UInt64.toNat_lt _
  · split
    · exact UInt64.toNat_lt _
    · exact Nat.lt_trans (UInt32.toNat_lt _) (by decide)

/-- Each value that is written is one byte of the pattern, the lowest first. -/
theorem byteValues_eq (argument : ArgumentValue) :
    argument.byteValues = (List.range argument.format.size).map fun index =>
      .integer (UInt64.ofNat (argument.pattern / 256 ^ index % 256)) := by
  refine List.map_congr_left fun index _ => ?_
  change Value.integer
    (UInt64.ofNat (if 8 ≤ index then 0 else argument.pattern / 256 ^ index % 256)) = _
  split
  · rename_i beyond
    have longer : 256 ^ 8 ≤ 256 ^ index := Nat.pow_le_pow_right (by decide : 0 < 256) beyond
    have small : argument.pattern < 256 ^ index := Nat.lt_of_lt_of_le argument.pattern_lt longer
    rw [Nat.div_eq_of_lt small]
  · rfl

private theorem bytes_eq (argument : ArgumentValue) :
    argument.bytes = ((List.range argument.format.size).map fun index =>
      UInt8.ofNat (argument.pattern / 256 ^ index % 256)).toArray := by
  rw [bytes, byteValues_eq, List.map_map]
  refine congrArg List.toArray (List.map_congr_left fun index _ => ?_)
  have small : argument.pattern / 256 ^ index % 256 < 2 ^ 64 :=
    Nat.lt_trans (Nat.mod_lt _ (by decide)) (by decide)
  exact congrArg UInt8.ofNat (UInt64.toNat_ofNat_of_lt' small)

private theorem bitAt_bytes (argument : ArgumentValue) (place : Nat) :
    bitAt argument.bytes place =
      (decide (place < 8 * argument.format.size) && argument.pattern.testBit place) := by
  have inside : place % 8 < 8 := Nat.mod_lt _ (by decide)
  have split : 8 * (place / 8) + place % 8 = place := Nat.div_add_mod place 8
  unfold bitAt
  rw [bytes_eq, Array.getD_eq_getD_getElem?]
  by_cases within : place / 8 < argument.format.size
  · have covered : place < 8 * argument.format.size := by omega
    have power : 256 ^ (place / 8) = 2 ^ (8 * (place / 8)) := by rw [Nat.pow_mul]
    have bit : (argument.pattern / 256 ^ (place / 8) % 256).testBit (place % 8) =
        argument.pattern.testBit place := by
      rw [power, show 256 = 2 ^ 8 from rfl, Nat.testBit_mod_two_pow, Nat.testBit_div_two_pow,
        Nat.add_comm, split]
      simp [inside]
    simp [within, covered, bit]
  · have beyond : ¬place < 8 * argument.format.size := by omega
    simp [within, beyond]

end ArgumentValue

section Scalar

variable (mode : Mode) (bits : Nat) (layout : Layout) (tag : Option ImageFormat)

namespace Format

theorem segments_scalar :
    (Format.scalar mode bits layout tag).segments = [.component ⟨.red, mode, bits⟩] := by
  cases layout <;> rfl

theorem size_scalar : (Format.scalar mode bits layout tag).size = bytesFor bits := by
  rw [size, segments_scalar]
  rfl

theorem inputCount_scalar : (Format.scalar mode bits layout tag).inputCount = 1 := by
  rw [inputCount, segments_scalar]
  rfl

private theorem slots_scalar :
    (Format.scalar mode bits layout tag).slots = [⟨0, ⟨.red, mode, bits⟩⟩] := by
  rw [slots, segments_scalar]
  rfl

end Format

namespace Buffer

variable {mode bits layout tag}

private theorem place?_scalar :
    place? (.scalar mode bits layout tag) 0 0 = some ⟨0, ⟨.red, mode, bits⟩⟩ := by
  rw [place?, Format.slots_scalar, Format.inputCount_scalar, Format.size_scalar, Nat.zero_div,
    Nat.zero_mul]
  rfl

private theorem countHolding_scalar :
    (Format.scalar mode bits layout tag).countHolding 0 0 1 = 1 := by
  have unpacked : (Format.scalar mode bits layout tag).isPacked = false := rfl
  rw [Format.countHolding, Format.filledElements, Format.inputCount_scalar, unpacked, Nat.zero_div]
  rfl

/-- A value in an empty buffer of numbers leaves the bits of its code. -/
theorem setData_scalar {buffer : Buffer}
    (present : buffer.format = some (.scalar mode bits layout tag))
    (count : buffer.elementCount = 0) (blank : buffer.bytes = #[]) (wide : 0 < bits) {value : Value}
    {code : Nat} (coded : (mode.adapt value).code bits = .ok code) :
    ∃ after, (setData [value]).apply buffer = (.ok ⟨⟩, after) ∧
      after.bytes.size = bytesFor bits ∧
      ∀ place, bitAt after.bytes place = (decide (place < bits) && code.testBit place) := by
  have size := Format.size_scalar mode bits layout tag
  have inputs := Format.inputCount_scalar mode bits layout tag
  have bytes : 0 < bytesFor bits := by
    unfold bytesFor
    omega
  have stride : (buffer.grown (.scalar mode bits layout tag) 0 1).size = bytesFor bits := by
    rw [Buffer.size, Buffer.stride, grown, count, countHolding_scalar, present, Nat.one_mul]
    exact size
  -- The element that the value goes to is zero before it is written.
  let zeros := zeroBytes (resizeBytes #[] (bytesFor bits)) 0 (bytesFor bits)
  have cleared : (buffer.grown (.scalar mode bits layout tag) 0 1).cleared 0 (bytesFor bits) =
      { buffer with elementCount := 1, bytes := zeros } := by
    rw [Buffer.cleared, stride, grown, count, countHolding_scalar, blank]
  have long : zeros.size = bytesFor bits := by
    rw [size_zeroBytes, size_resizeBytes]
  have zero (place : Nat) : bitAt zeros place = false := by
    rw [bitAt_zeroBytes, bitAt_resizeBytes]
    split
    · rfl
    · rename_i outside
      have beyond : ¬place < 8 * bytesFor bits := by omega
      simp [beyond]
  have fits : (⟨8 * 0, bits⟩ : BitField).span ≤
      zeros.size - (⟨8 * 0, bits⟩ : BitField).firstByte := by
    rw [long, BitField.span, BitField.lead, BitField.firstByte, bytesFor]
    simp
  obtain ⟨written, wrote⟩ := BitField.write_ok_iff.mpr fits
  refine ⟨{ buffer with elementCount := 1, bytes := written }, ?_, ?_, fun place => ?_⟩
  · have filled : (⟨8 * 0, bits⟩ : BitField).writeValue zeros (mode.adapt value) =
        .ok written := by
      rw [BitField.writeValue, coded]
      exact wrote
    rw [setData, apply_setDataAt present (size ▸ bytes) (inputs ▸ Nat.one_pos), apply_overwrite,
      size, inputs]
    have room : (buffer.grown (.scalar mode bits layout tag) 0 1).elementCount = 1 := by
      rw [grown, count, countHolding_scalar]
    rw [List.length_singleton, room]
    dsimp only
    rw [if_neg (by decide), Nat.div_one, Nat.one_mul, cleared, writeValues, Edit.apply_bind,
      apply_writeValue place?_scalar]
    dsimp only
    rw [filled]
    rfl
  · exact (BitField.size_write wrote).trans long
  · rw [BitField.bitAt_write wrote, zero]
    simp [BitField.Covers]

end Buffer

end Scalar

theorem code_ok {mode : Mode} {bits : Nat} (width : mode.HasWidth bits) (value : Value) :
    ∃ code, (mode.adapt value).code bits = .ok code := by
  unfold Mode.HasWidth at width
  by_cases float : mode.isFloat = true
  · rw [if_pos float] at width
    rw [adapt_eq_double float]
    simp only [List.mem_cons, List.not_mem_nil, or_false] at width
    rcases width with rfl | rfl | rfl <;> exact ⟨_, rfl⟩
  · rw [if_neg float] at width
    rw [adapt_eq_word (Bool.not_eq_true _ ▸ float)]
    simp only [List.mem_cons, List.not_mem_nil, or_false] at width
    rcases width with rfl | rfl | rfl | rfl <;> exact ⟨_, rfl⟩

/-- A value is of the kind that a mode stores, and not cut to a float of half a word. -/
def Value.IsStored (value : Value) (mode : Mode) (bits : Nat) : Prop :=
  value.isInteger = !mode.isFloat ∧ (mode.isFloat = true → bits ≠ 16)

/-- A value of the kind that is stored has its own pattern as its code. -/
theorem code_eq_pattern {mode : Mode} {bits : Nat} (width : mode.HasWidth bits) {layout : Layout}
    {tag : Option ImageFormat} {argument : ArgumentValue}
    (scalar : argument.format = .scalar mode bits layout tag)
    (stored : argument.value.IsStored mode bits) {code : Nat}
    (coded : (mode.adapt argument.value).code bits = .ok code) : code = argument.pattern := by
  obtain ⟨kind, whole⟩ := stored
  have size := Format.size_scalar mode bits layout tag
  rw [← scalar] at size
  unfold Mode.HasWidth at width
  unfold ArgumentValue.pattern
  cases value : argument.value with
  | integer word =>
    rw [value] at kind coded
    have integer : mode.isFloat = false := by simpa [Value.isInteger] using kind
    rw [adapt_eq_word integer, Value.code] at coded
    split at coded
    · cases coded
      rfl
    · cases coded
  | double number =>
    rw [value] at kind coded
    have float : mode.isFloat = true := by simpa [Value.isInteger] using kind
    rw [if_pos float] at width
    simp only [List.mem_cons, List.not_mem_nil, or_false] at width
    rw [adapt_eq_double float] at coded
    dsimp only
    rcases width with rfl | rfl | rfl
    · exact absurd rfl (whole float)
    · cases coded
      rw [if_neg (by rw [size]; decide)]
      rfl
    · cases coded
      rw [if_pos (show argument.format.size = 8 from size)]
      rfl

/-- In an empty buffer of single numbers a value leaves the bytes that it has as a kernel argument
exactly when it is of the kind that is stored, or else its code there happens to be its pattern as
an argument. -/
theorem setData_bytes_iff {mode : Mode} {bits : Nat} (width : mode.HasWidth bits) {layout : Layout}
    {tag : Option ImageFormat} {argument : ArgumentValue}
    (scalar : argument.format = .scalar mode bits layout tag) {buffer : Buffer}
    (present : buffer.format = some argument.format) (count : buffer.elementCount = 0)
    (blank : buffer.bytes = #[]) :
    ∃ code after, (mode.adapt argument.value).code bits = .ok code ∧
      (Buffer.setData [argument.value]).apply buffer = (.ok ⟨⟩, after) ∧
      (after.bytes = argument.bytes ↔ argument.value.IsStored mode bits ∨
        code % 2 ^ bits = argument.pattern % 2 ^ bits) := by
  obtain ⟨code, coded⟩ := code_ok width argument.value
  have whole : 0 < bits ∧ 8 * bytesFor bits = bits := by
    unfold Mode.HasWidth at width
    unfold bytesFor
    split at width <;> simp only [List.mem_cons, List.not_mem_nil, or_false] at width <;> omega
  have size := Format.size_scalar mode bits layout tag
  rw [← scalar] at size
  obtain ⟨after, done, long, left⟩ :=
    Buffer.setData_scalar (scalar ▸ present) count blank whole.1 coded
  refine ⟨code, after, coded, done, ?_⟩
  have same : after.bytes = argument.bytes ↔ code % 2 ^ bits = argument.pattern % 2 ^ bits := by
    have right (place : Nat) : bitAt argument.bytes place =
        (decide (place < bits) && argument.pattern.testBit place) := by
      rw [argument.bitAt_bytes, size, whole.2]
    constructor
    · intro equal
      refine Nat.eq_of_testBit_eq fun place => ?_
      rw [Nat.testBit_mod_two_pow, Nat.testBit_mod_two_pow, ← left, ← right, equal]
    · intro equal
      refine eq_of_bitAt (by rw [long, argument.size_bytes, size]) fun place => ?_
      rw [left, right, ← Nat.testBit_mod_two_pow, ← Nat.testBit_mod_two_pow, equal]
  rw [same]
  refine (or_iff_right_of_imp fun stored => ?_).symm
  rw [code_eq_pattern width scalar stored coded]

/-- A double in a buffer of single floats is encoded as it is as an argument. -/
theorem setData_bytes_iff_double :
    let argument : ArgumentValue :=
      ⟨"scale", 0, .scalar .signedFloat 32 .std430 none, .double .one⟩
    let buffer : Buffer := { name := "scales", format := some argument.format }
    ∃ after, (Buffer.setData [argument.value]).apply buffer = (.ok ⟨⟩, after) ∧
      after.bytes = argument.bytes := by
  intro argument buffer
  have width : Mode.signedFloat.HasWidth 32 := by decide
  have scalar : argument.format = .scalar .signedFloat 32 .std430 none := rfl
  have present : buffer.format = some argument.format := rfl
  obtain ⟨code, after, -, done, same⟩ := setData_bytes_iff width scalar present rfl rfl
  exact ⟨after, done, same.mpr (.inl ⟨rfl, by decide⟩)⟩

/-- An integer is converted for a buffer of floats, but not as an argument. -/
theorem setData_bytes_integer :
    let argument : ArgumentValue :=
      ⟨"scale", 0, .scalar .signedFloat 32 .std430 none, .integer 1⟩
    let buffer : Buffer := { name := "scales", format := some argument.format }
    let after := ((Buffer.setData [argument.value]).apply buffer).2
    after.bytes = #[0x00, 0x00, 0x80, 0x3f] ∧ argument.bytes = #[0x01, 0x00, 0x00, 0x00] ∧
      after.bytes ≠ argument.bytes := by
  decide +kernel

end GpuScript
