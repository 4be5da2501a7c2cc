import GpuScript.Proofs.Bits.Field
import GpuScript.Proofs.Edit

/-! Values in fields. A value has a pattern for each width of its kind, and storing it makes the
bits of the field those of the pattern; where it cannot be stored, all bits stay. Fields without a
common bit can be filled in any order. -/
namespace GpuScript

namespace Value

def HasWidth (value : Value) (width : Nat) : Prop :=
  match value with
  | .integer _ => width ≤ 64
  | .double _ => width ∈ [10, 11, 16, 32, 64]

instance (value : Value) (width : Nat) : Decidable (value.HasWidth width) :=
  match value with
  | .integer _ => inferInstanceAs (Decidable (width ≤ 64))
  | .double _ => inferInstanceAs (Decidable (width ∈ [10, 11, 16, 32, 64]))

theorem HasWidth.le {value : Value} {width : Nat} (legal : value.HasWidth width) : width ≤ 64 := by
  cases value with
  | integer bits => exact legal
  | double number =>
    simp only [HasWidth, List.mem_cons, List.not_mem_nil, or_false] at legal
    omega

/-- The bits that stand for a value in a field: those of an integer itself, or those of the double,
single or small float of the width. -/
def pattern (value : Value) (width : Nat) : Nat :=
  match value with
  | .integer bits => bits.toNat
  | .double number =>
    match width with
    | 64 => number.bits.toNat
    | 32 => number.toSingle.bits.toNat
    | 16 => SmallFloat.encode ⟨10, true⟩ number.toSingle
    | 11 => SmallFloat.encode ⟨6, false⟩ number.toSingle
    | 10 => SmallFloat.encode ⟨5, false⟩ number.toSingle
    | _ => 0

private theorem code_of_hasWidth {value : Value} {width : Nat} (legal : value.HasWidth width) :
    value.code width = .ok (value.pattern width) := by
  cases value with
  | integer bits => exact if_pos legal
  | double number =>
    simp only [HasWidth, List.mem_cons, List.not_mem_nil, or_false] at legal
    rcases legal with rfl | rfl | rfl | rfl | rfl <;> rfl

theorem hasWidth_of_code {value : Value} {width code : Nat} (coded : value.code width = .ok code) :
    value.HasWidth width := by
  refine Decidable.not_not.mp fun illegal => ?_
  cases value with
  | integer bits =>
    have refused : (Value.integer bits).code width = .error (.codec .integerWidth) :=
      if_neg illegal
    cases refused.symm.trans coded
  | double number =>
    simp only [HasWidth, List.mem_cons, List.not_mem_nil, or_false, not_or] at illegal
    obtain ⟨ten, eleven, half, single, double⟩ := illegal
    have small : SmallFloat.ofWidth? width = none := by
      unfold SmallFloat.ofWidth?
      split <;> first | contradiction | rfl
    rw [Value.code, if_neg double, if_neg single, small] at coded
    cases coded

end Value

namespace BitField

def store (field : BitField) (value : Value) : Edit (Array UInt8) Unit := do
  set (← Edit.ofExcept (field.writeValue (← get) value))

theorem apply_store (field : BitField) (value : Value) (bytes : Array UInt8) :
    (field.store value).apply bytes =
      match field.writeValue bytes value with
      | .ok after => (.ok ⟨⟩, after)
      | .error fault => (.error fault, bytes) := by
  rw [store, Edit.apply_bind_of_ok (Edit.apply_get bytes), Edit.apply_bind, Edit.apply_ofExcept]
  cases field.writeValue bytes value <;> rfl

theorem writeValue_of_hasWidth {field : BitField} {value : Value}
    (legal : value.HasWidth field.width) (bytes : Array UInt8) :
    field.writeValue bytes value = field.write bytes (value.pattern field.width) := by
  rw [writeValue, Value.code_of_hasWidth legal]
  rfl

theorem store_ok {field : BitField} {value : Value} {bytes after : Array UInt8}
    (stored : (field.store value).apply bytes = (.ok ⟨⟩, after)) :
    value.HasWidth field.width ∧ field.write bytes (value.pattern field.width) = .ok after := by
  rw [apply_store] at stored
  cases coded : value.code field.width with
  | error fault =>
    have refused : field.writeValue bytes value = .error fault := by
      rw [writeValue, coded]
      rfl
    rw [refused] at stored
    cases stored
  | ok code =>
    have legal := Value.hasWidth_of_code coded
    refine ⟨legal, ?_⟩
    rw [writeValue_of_hasWidth legal] at stored
    cases wrote : field.write bytes (value.pattern field.width) with
    | error fault =>
      rw [wrote] at stored
      cases stored
    | ok written =>
      rw [wrote] at stored
      cases stored
      rfl

/-- A value is stored where the width is one of its kind and the span is within the bytes. -/
theorem store_succeeds_iff {field : BitField} {value : Value} {bytes : Array UInt8} :
    (field.store value).Succeeds bytes ↔
      value.HasWidth field.width ∧ field.span ≤ bytes.size - field.firstByte := by
  constructor
  · rintro ⟨⟨⟩, after, stored⟩
    obtain ⟨legal, wrote⟩ := store_ok stored
    exact ⟨legal, write_ok_iff.mp ⟨after, wrote⟩⟩
  · rintro ⟨legal, room⟩
    have writes : ∃ after, field.write bytes (value.pattern field.width) = .ok after :=
      write_ok_iff.mpr room
    obtain ⟨after, wrote⟩ := writes
    refine ⟨⟨⟩, after, ?_⟩
    rw [apply_store, writeValue_of_hasWidth legal, wrote]

theorem store_error {field : BitField} {value : Value} {bytes after : Array UInt8} {fault : Fault}
    (refused : (field.store value).apply bytes = (.error fault, after)) : after = bytes := by
  rw [apply_store] at refused
  split at refused
  · cases refused
  · exact (Prod.mk.inj refused).2.symm

/-- The span of a field that is not empty ends with the byte of its last bit. -/
theorem span_le_iff {field : BitField} (wide : 1 ≤ field.width) (size : Nat) :
    field.span ≤ size - field.firstByte ↔ bytesFor (field.offset + field.width) ≤ size := by
  have lead := field.lead_lt
  have offset := field.offset_eq
  unfold span bytesFor
  omega

/-- A value is stored exactly where its width is one of its kind and the bytes reach to the end of
the field. Then the field has the bits of the pattern and all other bits are as before; where the
value is refused, so are all bits. -/
theorem store_exact {field : BitField} (wide : 1 ≤ field.width) (value : Value)
    (bytes : Array UInt8) :
    ((field.store value).Succeeds bytes ↔
        value.HasWidth field.width ∧ bytesFor (field.offset + field.width) ≤ bytes.size) ∧
      (∀ after, (field.store value).apply bytes = (.ok ⟨⟩, after) →
        after.size = bytes.size ∧
          (∀ index < field.width, bitAt after (field.offset + index) =
            (value.pattern field.width).testBit index) ∧
          ∀ place, ¬field.Covers place → bitAt after place = bitAt bytes place) ∧
      ∀ fault after, (field.store value).apply bytes = (.error fault, after) → after = bytes := by
  refine ⟨?_, fun after stored => ?_, fun fault after refused => store_error refused⟩
  · rw [store_succeeds_iff, span_le_iff wide]
  · obtain ⟨-, wrote⟩ := store_ok stored
    refine ⟨size_write wrote, fun index inside => ?_, fun place outside => ?_⟩
    · have covers : field.Covers (field.offset + index) := ⟨Nat.le_add_right _ _, by omega⟩
      rw [bitAt_write wrote, if_pos covers, Nat.add_sub_cancel_left]
    · rw [bitAt_write wrote, if_neg outside]

/-- Sixty-four bits from the fourth bit on touch nine bytes. -/
theorem store_exact_nine :
    let field : BitField := ⟨3, 64⟩
    let bytes : Array UInt8 := Array.replicate 9 0xff
    ∃ after, (field.store (.integer 1)).apply bytes = (.ok ⟨⟩, after) ∧
      (∀ index < 64, bitAt after (3 + index) = Nat.testBit 1 index) ∧
      ∀ place, ¬field.Covers place → bitAt after place = bitAt bytes place := by
  intro field bytes
  have wide : 1 ≤ field.width := by decide
  obtain ⟨succeeds, written, -⟩ := store_exact wide (.integer 1) bytes
  obtain ⟨⟨⟩, after, stored⟩ := succeeds.mpr (by decide)
  exact ⟨after, stored, (written after stored).2⟩

end BitField

/-- A value with the field that it goes to. -/
structure FieldValue where
  field : BitField
  value : Value

namespace FieldValue

def store (entry : FieldValue) : Edit (Array UInt8) Unit := entry.field.store entry.value

def pattern (entry : FieldValue) : Nat := entry.value.pattern entry.field.width

def Apart (left right : FieldValue) : Prop :=
  ∀ place, left.field.Covers place → ¬right.field.Covers place

theorem apart_of_le {left right : FieldValue}
    (before : left.field.offset + left.field.width ≤ right.field.offset) : left.Apart right := by
  intro place covers other
  have stop := covers.2
  have start := other.1
  omega

theorem Apart.symm {left right : FieldValue} (apart : left.Apart right) : right.Apart left :=
  fun place covers other => apart place other covers

/-- Bytes have become others in which each field has its value and all else is as it was. -/
structure Filled (entries : List FieldValue) (before after : Array UInt8) : Prop where
  size : after.size = before.size
  inside : ∀ entry ∈ entries, ∀ place, entry.field.Covers place →
    bitAt after place = entry.pattern.testBit (place - entry.field.offset)
  outside : ∀ place, (∀ entry ∈ entries, ¬entry.field.Covers place) →
    bitAt after place = bitAt before place

/-- The bytes after fields have been filled depend on the fields alone, not on their order. -/
theorem Filled.unique {entries others : List FieldValue} {before left right : Array UInt8}
    (same : ∀ entry, entry ∈ entries ↔ entry ∈ others) (first : Filled entries before left)
    (second : Filled others before right) : left = right := by
  refine eq_of_bitAt (first.size.trans second.size.symm) fun place => ?_
  by_cases covered : ∃ entry ∈ entries, entry.field.Covers place
  · obtain ⟨entry, member, covers⟩ := covered
    rw [first.inside entry member place covers,
      second.inside entry ((same entry).mp member) place covers]
  · have bare : ∀ entry ∈ entries, ¬entry.field.Covers place :=
      fun entry member covers => covered ⟨entry, member, covers⟩
    rw [first.outside place bare,
      second.outside place fun entry member => bare entry ((same entry).mpr member)]

/-- Filling one more field that has no bit in common with those that are filled after it. -/
theorem Filled.cons {entry : FieldValue} {rest : List FieldValue}
    {before between after : Array UInt8} (apart : ∀ other ∈ rest, entry.Apart other)
    (wrote : entry.field.write before entry.pattern = .ok between)
    (filled : Filled rest between after) : Filled (entry :: rest) before after where
  size := filled.size.trans (BitField.size_write wrote)
  inside other member place covers := by
    rcases List.mem_cons.mp member with rfl | member
    · rw [filled.outside place fun later member => apart later member place covers,
        BitField.bitAt_write wrote, if_pos covers]
    · exact filled.inside other member place covers
  outside place bare := by
    obtain ⟨first, later⟩ := List.forall_mem_cons.mp bare
    rw [filled.outside place later, BitField.bitAt_write wrote, if_neg first]

private theorem succeeds_of_size {entry : FieldValue} {before after : Array UInt8}
    (size : after.size = before.size) (accepted : entry.store.Succeeds before) :
    entry.store.Succeeds after :=
  BitField.store_succeeds_iff.mpr (size ▸ BitField.store_succeeds_iff.mp accepted)

/-- Fields that take their values one by one, and have no bit in common, are filled one after the
other. -/
theorem exists_filled {entries : List FieldValue} {bytes : Array UInt8}
    (apart : entries.Pairwise Apart) (accepted : ∀ entry ∈ entries, entry.store.Succeeds bytes) :
    ∃ after, (entries.forM store).apply bytes = (.ok ⟨⟩, after) ∧ Filled entries bytes after := by
  induction entries generalizing bytes with
  | nil => exact ⟨bytes, rfl, rfl, fun _ member => absurd member List.not_mem_nil, fun _ _ => rfl⟩
  | cons entry rest ih =>
    obtain ⟨first, later⟩ := List.pairwise_cons.mp apart
    obtain ⟨⟨⟨⟩, between, stored⟩, others⟩ := List.forall_mem_cons.mp accepted
    obtain ⟨-, wrote⟩ := BitField.store_ok stored
    have size := BitField.size_write wrote
    obtain ⟨after, ran, filled⟩ :=
      ih later fun other member => succeeds_of_size size (others other member)
    exact ⟨after, Edit.forM_cons_ok.mpr ⟨between, stored, ran⟩, filled.cons first wrote⟩

/-- Fields without a common bit are filled alike in every order. -/
theorem filled_of_perm {entries order : List FieldValue} {bytes after : Array UInt8}
    (apart : entries.Pairwise Apart) (accepted : ∀ entry ∈ entries, entry.store.Succeeds bytes)
    (filled : Filled entries bytes after) (reordered : order.Perm entries) :
    (order.forM store).apply bytes = (.ok ⟨⟩, after) := by
  have spread : order.Pairwise Apart := apart.perm reordered.symm Apart.symm
  obtain ⟨other, ran, same⟩ :=
    exists_filled spread fun entry member => accepted entry (reordered.mem_iff.mp member)
  rw [filled.unique (fun entry => reordered.mem_iff.symm) same]
  exact ran

end FieldValue

end GpuScript
