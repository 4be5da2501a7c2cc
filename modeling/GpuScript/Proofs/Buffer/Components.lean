import GpuScript.Buffer.Comparison
import GpuScript.Proofs.Bits.Reading
import GpuScript.Proofs.Bits.SmallFloat
import GpuScript.Proofs.Buffer.Elements
import Mathlib.Tactic.IntervalCases

/-! Components read back. What has been written to a component is read as the number that its code
stands for: an integer in two's complement or without a sign, or a float of its width. Floats of
ten and eleven bits are the exception, since their codes are read as integers. -/
namespace GpuScript

/-- The integer of a code in two's complement. -/
def signExtended (width code : Nat) : Int :=
  if code < 2 ^ (width - 1) then code else code - 2 ^ width

theorem bmod_eq_signExtended {width code : Nat} (wide : 1 ≤ width) (range : code < 2 ^ width) :
    (code : Int).bmod (2 ^ width) = signExtended width code := by
  have half : 2 ^ width = 2 * 2 ^ (width - 1) := by
    rw [← Nat.pow_succ', Nat.succ_eq_add_one, Nat.sub_add_cancel wide]
  have residue : (code : Int) % (2 ^ width : Nat) = code := Int.emod_eq_of_lt (by omega) (by omega)
  rw [Int.bmod_def, residue, signExtended]
  have power : ((2 ^ width : Nat) : Int) = 2 ^ width := by norm_cast
  split <;> split <;> omega

/-- The float that a code of this width stands for. -/
def floatOf? (width code : Nat) : Option BinaryNumber :=
  if width = 64 then some (BinaryLayout.double.decode code)
  else if width = 32 then some (BinaryLayout.single.decode code)
  else (SmallFloat.ofWidth? width).map fun layout => (layout.decode code).decode

namespace Component

/-- A double is the number that a code of the component stands for. -/
def Denotes (component : Component) (code : Nat) (number : Double) : Prop :=
  if component.mode.isFloat then
    ∃ float, floatOf? component.bits code = some float ∧ number.decode.Same float
  else
    number =
      .ofInt (if component.mode.isSigned then signExtended component.bits code else code)

def IsShortFloat (component : Component) : Prop :=
  component.mode.isFloat = true ∧ (component.bits = 10 ∨ component.bits = 11)

end Component

theorem mul_zpow_neg_eq_iff (left right shift : Nat) :
    (left : ℚ) * 2 ^ (0 : Int) = right * 2 ^ (-(shift : Int)) ↔ left * 2 ^ shift = right := by
  rw [zpow_zero, mul_one, zpow_neg, zpow_natCast, ← div_eq_mul_inv, eq_div_iff (by positivity)]
  norm_cast

/-- As integers, the codes of normal numbers are never the numbers themselves. -/
theorem short_code_ne {bits exponent fraction : Nat} (size : bits = 5 ∨ bits = 6)
    (range : exponent < 31) (short : fraction < 2 ^ bits) :
    (exponent * 2 ^ bits + fraction) * 2 ^ (38 - exponent) ≠
      2 ^ 23 + fraction * 2 ^ (23 - bits) := by
  rcases size with rfl | rfl <;> interval_cases exponent <;> norm_num <;> omega

section ShortCodes

variable {layout : SmallFloat} (size : layout.fractionBits = 5 ∨ layout.fractionBits = 6)

include size

theorem same_ofInt_zero : (Double.ofInt 0).decode.Same (layout.decode 0).decode := by
  have packed : layout.pack false 0 0 = 0 := by
    rw [SmallFloat.pack, if_neg Bool.false_ne_true, Nat.zero_mul]
  have read : (layout.decode (layout.pack false 0 0)).decode = .finite false 0 (-149) := by
    rw [SmallFloat.read_pack (by omega) false (by decide) (Nat.two_pow_pos _)
      fun sign => absurd sign Bool.false_ne_true, Nat.zero_mul]
    rfl
  rw [packed] at read
  rw [read]
  exact (Double.same_ofInt (by decide)).trans ⟨rfl, by simp⟩

private theorem eq_zero_of_same_ofInt {code : Nat} (range : code < 2 ^ (5 + layout.fractionBits))
    (same : (Double.ofInt code).decode.Same (layout.decode code).decode) : code = 0 := by
  have narrow : layout.fractionBits ≤ 23 := by omega
  have small : code < 2 ^ 53 :=
    Nat.lt_of_lt_of_le range (Nat.pow_le_pow_right (by decide) (by omega))
  have whole : (Double.ofInt code).decode.Same (.finite false code 0) := Double.same_ofInt small
  have numbers := whole.symm.trans same
  obtain ⟨exponentRange, fractionRange, packed⟩ := SmallFloat.pack_fields range
  rw [← packed, SmallFloat.read_pack narrow false exponentRange fractionRange
    fun sign => absurd sign Bool.false_ne_true, packed] at numbers
  rw [SmallFloat.pack, if_neg Bool.false_ne_true, Nat.zero_add] at packed
  generalize layout.exponentField code = exponent at *
  generalize layout.fractionField code = fraction at *
  split at numbers
  · split at numbers <;> exact absurd numbers id
  · rename_i ordinary
    split at numbers
    · rename_i zero
      have none : fraction = 0 := by
        have power := Nat.two_pow_pos (23 - layout.fractionBits)
        rcases Nat.mul_eq_zero.mp zero.2 with none | none <;> omega
      rw [← packed, zero.1, none, Nat.zero_mul]
    · -- A normal number: its code lacks the bias and the leading one.
      obtain ⟨-, equal⟩ := numbers
      have place : (exponent : Int) - 38 = -((38 - exponent : Nat) : Int) := by omega
      rw [place, mul_zpow_neg_eq_iff, ← packed] at equal
      exact absurd equal (short_code_ne size (by omega) fractionRange)

/-- The code of a float without a sign is not the number that it stands for, unless it is zero. -/
theorem same_ofInt_code_iff {code : Nat} (range : code < 2 ^ (5 + layout.fractionBits)) :
    (Double.ofInt code).decode.Same (layout.decode code).decode ↔ code = 0 := by
  constructor
  · exact eq_zero_of_same_ofInt size range
  · rintro rfl
    exact same_ofInt_zero size

end ShortCodes

namespace Component

/-- The number that a code of the component is read as. -/
def read (component : Component) (code : Nat) : Double :=
  if (Storage.float 16).holds component.mode component.bits then
    .ofSingle ((⟨10, true⟩ : SmallFloat).decode (code % 2 ^ 16))
  else if (Storage.float 32).holds component.mode component.bits then .ofSingle ⟨UInt32.ofNat code⟩
  else if (Storage.float 64).holds component.mode component.bits then ⟨UInt64.ofNat code⟩
  else if component.mode.isSigned then .ofInt ((code : Int).bmod (2 ^ max component.bits 1))
  else .ofInt code

variable {component : Component} {code : Nat}

private theorem read_of_integer (integer : component.mode.isFloat = false) :
    component.read code =
      if component.mode.isSigned then .ofInt ((code : Int).bmod (2 ^ max component.bits 1))
      else .ofInt code := by
  simp [read, Storage.holds, integer]

theorem read_of_float (float : component.mode.isFloat = true) :
    component.read code =
      if component.bits = 16 then .ofSingle ((⟨10, true⟩ : SmallFloat).decode (code % 2 ^ 16))
      else if component.bits = 32 then .ofSingle ⟨UInt32.ofNat code⟩
      else if component.bits = 64 then ⟨UInt64.ofNat code⟩
      else .ofInt code := by
  have unsigned : component.mode.isSigned = false := by
    cases mode : component.mode <;> rw [mode] at float <;> first | rfl | cases float
  simp [read, Storage.holds, float, unsigned]

theorem read_of_isShortFloat (short : component.IsShortFloat) :
    component.read code = .ofInt code := by
  obtain ⟨float, size⟩ := short
  rw [read_of_float float, if_neg (by omega), if_neg (by omega), if_neg (by omega)]

/-- An integer is read in two's complement or without a sign. -/
theorem denotes_read_of_integer (integer : component.mode.isFloat = false)
    (wide : 1 ≤ component.bits) (range : code < 2 ^ component.bits) :
    component.Denotes code (component.read code) := by
  rw [Denotes, if_neg (Bool.not_eq_true _ ▸ integer), read_of_integer integer]
  cases component.mode.isSigned with
  | false => rfl
  | true => rw [if_pos rfl, if_pos rfl, Nat.max_eq_left wide, ← bmod_eq_signExtended wide range]

theorem denotes_iff_of_float (float : component.mode.isFloat = true) {other : BinaryNumber}
    (known : floatOf? component.bits code = some other) (number : Double) :
    component.Denotes code number ↔ number.decode.Same other := by
  rw [Denotes, if_pos float, known]
  simp only [Option.some.injEq, exists_eq_left']

private theorem denotes_read_of_float (float : component.mode.isFloat = true)
    (size : component.bits = 16 ∨ component.bits = 32 ∨ component.bits = 64)
    (range : code < 2 ^ component.bits) : component.Denotes code (component.read code) := by
  rcases size with size | size | size <;> rw [size] at range
  · have known : floatOf? component.bits code =
        some ((⟨10, true⟩ : SmallFloat).decode code).decode := by
      rw [size]
      rfl
    rw [denotes_iff_of_float float known, read_of_float float, if_pos size, Nat.mod_eq_of_lt range]
    exact Double.same_ofSingle _
  · have known : floatOf? component.bits code = some (⟨UInt32.ofNat code⟩ : Single).decode := by
      rw [Single.decode, UInt32.toNat_ofNat_of_lt' range, size]
      rfl
    rw [denotes_iff_of_float float known, read_of_float float, if_neg (by omega), if_pos size]
    exact Double.same_ofSingle _
  · have known : floatOf? component.bits code = some (⟨UInt64.ofNat code⟩ : Double).decode := by
      rw [Double.decode_ofNat range, size]
      rfl
    rw [denotes_iff_of_float float known, read_of_float float, if_neg (by omega),
      if_neg (by omega), if_pos size]
    exact .refl _

/-- A short float is read as what it is only if it is zero. -/
theorem denotes_read_short_iff (short : component.IsShortFloat)
    (range : code < 2 ^ component.bits) :
    component.Denotes code (component.read code) ↔ code = 0 := by
  obtain ⟨float, size⟩ := short
  rw [read_of_isShortFloat ⟨float, size⟩]
  rcases size with size | size <;> rw [size] at range
  · have known : floatOf? component.bits code =
        some ((⟨5, false⟩ : SmallFloat).decode code).decode := by
      rw [size]
      rfl
    rw [denotes_iff_of_float float known]
    exact same_ofInt_code_iff (.inl rfl) range
  · have known : floatOf? component.bits code =
        some ((⟨6, false⟩ : SmallFloat).decode code).decode := by
      rw [size]
      rfl
    rw [denotes_iff_of_float float known]
    exact same_ofInt_code_iff (.inr rfl) range

/-- A code is read as the number that it stands for, but for those of short floats that are not
zero. -/
theorem denotes_read_iff (encodable : component.Encodable) (wide : 1 ≤ component.bits)
    (range : code < 2 ^ component.bits) :
    component.Denotes code (component.read code) ↔ (component.IsShortFloat → code = 0) := by
  by_cases short : component.IsShortFloat
  · rw [denotes_read_short_iff short range]
    exact (imp_iff_right short).symm
  · refine iff_of_true ?_ fun other => absurd other short
    unfold Encodable at encodable
    cases float : component.mode.isFloat with
    | false => exact denotes_read_of_integer float wide range
    | true =>
      have long := not_and.mp short float
      simp only [float, ↓reduceIte, List.mem_cons, List.not_mem_nil, or_false] at encodable
      exact denotes_read_of_float float (by omega) range

end Component

theorem BitField.testBit_littleEndian_toList (bytes : Array UInt8) (place : Nat) :
    (littleEndian bytes.toList).testBit place = bitAt bytes place := by
  rw [testBit_littleEndian, bitAt, List.getD_eq_getElem?_getD, Array.getElem?_toList,
    Array.getD_eq_getD_getElem?]

/-- What a write puts into a component that takes every value. -/
theorem Format.Slot.writeValue_eq_write (slot : Format.Slot)
    (encodable : slot.component.Encodable) (value : Value) (bytes : Array UInt8) :
    slot.field.writeValue bytes (slot.component.mode.adapt value) =
      slot.field.write bytes (slot.component.pattern value) := by
  have legal : (slot.component.mode.adapt value).HasWidth slot.field.width :=
    encodable.hasWidth value
  exact BitField.writeValue_of_hasWidth legal bytes

namespace Buffer

/-- The number in a component is that of the code that the bits of the component make up. -/
theorem readComponent_eq {bytes : Array UInt8} {slot : Format.Slot} {code : Nat}
    (narrow : slot.component.bits ≤ 64) (range : code < 2 ^ slot.component.bits)
    (bits : ∀ index < slot.component.bits,
      bitAt bytes (8 * slot.position + index) = code.testBit index) :
    readComponent bytes slot = .ok (slot.component.read code) := by
  have fits : slot.field.width ≤ 64 := narrow
  have room : bytesFor slot.field.width ≤ (Array.replicate 8 (0 : UInt8)).size := by
    rw [Array.size_replicate]
    unfold bytesFor
    omega
  obtain ⟨raw, copied, -, places⟩ := BitField.copy_exact fits bytes room
  have word : BitField.littleEndian raw.toList = code := by
    refine Nat.eq_of_testBit_eq fun place => ?_
    rw [BitField.testBit_littleEndian_toList, places]
    split
    · rename_i inside
      exact bits place inside
    · -- Behind the component there are the zeros of the bytes that it is copied to.
      rename_i outside
      have beyond : 2 ^ slot.component.bits ≤ 2 ^ place :=
        Nat.pow_le_pow_right (by decide) (Nat.not_lt.mp outside)
      rw [bitAt_replicate_zero, Nat.testBit_lt_two_pow (Nat.lt_of_lt_of_le range beyond)]
  unfold Format.Slot.field at copied
  unfold readComponent Component.read
  dsimp only
  rw [copied]
  simp only [bind, Except.bind, word]
  split
  · rfl
  split
  · rfl
  split
  · rfl
  split <;> rfl

/-- A value is written to a component where its bytes end within the buffer. Then the component has
the low bits of the pattern, and it is read as the number that they stand for, unless it is a float
of ten or eleven bits that is not zero: that one is read as the integer of its code. -/
theorem readComponent_written_iff {slot : Format.Slot} (encodable : slot.component.Encodable)
    (wide : 1 ≤ slot.component.bits) (value : Value) (bytes : Array UInt8) :
    let code := slot.component.pattern value % 2 ^ slot.component.bits
    ((∃ after, slot.field.writeValue bytes (slot.component.mode.adapt value) = .ok after) ↔
        slot.position + bytesFor slot.component.bits ≤ bytes.size) ∧
      ∀ after, slot.field.writeValue bytes (slot.component.mode.adapt value) = .ok after →
        (∀ index < slot.component.bits,
          bitAt after (8 * slot.position + index) = code.testBit index) ∧
        ∃ number, readComponent after slot = .ok number ∧
          (slot.component.Denotes code number ↔ (slot.component.IsShortFloat → code = 0)) ∧
          (slot.component.IsShortFloat → number = .ofInt code) := by
  intro code
  have range : code < 2 ^ slot.component.bits := Nat.mod_lt _ (Nat.two_pow_pos _)
  rw [slot.writeValue_eq_write encodable]
  refine ⟨?_, fun after wrote => ?_⟩
  · have size : 1 ≤ bytesFor slot.component.bits := by
      unfold bytesFor
      omega
    rw [BitField.write_ok_iff, Format.Slot.span_field, Format.Slot.firstByte_field]
    omega
  · have stored : ∀ index < slot.component.bits,
        bitAt after (8 * slot.position + index) = code.testBit index := by
      intro index inside
      have covers : slot.field.Covers (8 * slot.position + index) :=
        ⟨Nat.le_add_right _ _, Nat.add_lt_add_left inside _⟩
      have place : 8 * slot.position + index - slot.field.offset = index :=
        Nat.add_sub_cancel_left _ _
      rw [BitField.bitAt_write wrote, if_pos covers, place, Nat.testBit_mod_two_pow]
      simp [inside]
    exact ⟨stored, _, readComponent_eq (encodable.hasWidth value).le range stored,
      Component.denotes_read_iff encodable wide range, Component.read_of_isShortFloat⟩

/-- Minus five in 24 bits with a sign, behind three other bytes. -/
theorem readComponent_written_iff_signed :
    let slot : Format.Slot := ⟨3, ⟨.red, .signedInt, 24⟩⟩
    let value : Value := .ofInt (-5)
    let bytes : Array UInt8 := Array.replicate 6 0
    slot.component.Encodable ∧ 1 ≤ slot.component.bits ∧
      ∃ after, slot.field.writeValue bytes (slot.component.mode.adapt value) = .ok after ∧
        ∃ number, readComponent after slot = .ok number ∧
          slot.component.Denotes 0xfffffb number := by
  intro slot value bytes
  have encodable : slot.component.Encodable := by decide
  have wide : 1 ≤ slot.component.bits := by decide
  obtain ⟨room, written⟩ := readComponent_written_iff encodable wide value bytes
  obtain ⟨after, wrote⟩ := room.mpr (by decide)
  obtain ⟨-, number, done, denotes, -⟩ := written after wrote
  have integer : ¬slot.component.IsShortFloat := fun short => Bool.false_ne_true short.1
  have code : slot.component.pattern value % 2 ^ slot.component.bits = 0xfffffb := by decide
  rw [code] at denotes
  exact ⟨encodable, wide, after, wrote, number, done, denotes.mpr fun short => absurd short integer⟩

/-- Fourteen as a float of eleven bits has the code 1200, and is read as that. -/
theorem readComponent_written_short :
    let slot : Format.Slot := ⟨0, ⟨.red, .unsignedFloat, 11⟩⟩
    let fourteen : Double := ⟨0x402c000000000000⟩
    let bytes : Array UInt8 := Array.replicate 2 0
    slot.component.Encodable ∧
      slot.field.writeValue bytes (slot.component.mode.adapt (.double fourteen)) =
        .ok #[0xb0, 0x04] ∧
      fourteen.decode.Same ((⟨6, false⟩ : SmallFloat).decode 1200).decode ∧
      readComponent #[0xb0, 0x04] slot = .ok (.ofInt 1200) ∧
      ¬slot.component.Denotes 1200 (.ofInt 1200) := by
  intro slot fourteen bytes
  have encodable : slot.component.Encodable := by decide
  have short : slot.component.IsShortFloat := ⟨rfl, .inr rfl⟩
  have decoded : fourteen = .ofSingle ((⟨6, false⟩ : SmallFloat).decode 1200) := by decide
  have reading : slot.component.read 1200 = .ofInt 1200 := Component.read_of_isShortFloat short
  have read : readComponent #[0xb0, 0x04] slot = .ok (slot.component.read 1200) :=
    readComponent_eq (by decide) (by decide) (by decide)
  rw [reading] at read
  have code : slot.component.pattern (.double fourteen) = 1200 := by decide
  have wrote := slot.writeValue_eq_write encodable (.double fourteen) bytes
  have stored : (⟨0, 11⟩ : BitField).write (Array.replicate 2 0) 1200 = .ok #[0xb0, 0x04] := by rfl
  rw [code] at wrote
  refine ⟨encodable, wrote.trans stored, decoded ▸ Double.same_ofSingle _, read, fun denotes => ?_⟩
  rw [← reading, Component.denotes_read_iff encodable (by decide) (by decide)] at denotes
  exact absurd (denotes short) (by decide)

end Buffer

end GpuScript
