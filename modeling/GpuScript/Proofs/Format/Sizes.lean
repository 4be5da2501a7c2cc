import GpuScript.Proofs.Format.Rows

/-! The bytes of an element. Whatever layouts are chosen for a format, its components are those of
its type, and only the padding between them changes; so the size of a format is that of its type and
the padding. The one exception are packed lists whose width is not whole bytes: the type counts the
whole bytes of the width, and the format the bytes that hold it. -/
namespace GpuScript

namespace Segment

def total (segments : List Segment) : Nat :=
  segments.foldr (fun segment bytes => segment.size + bytes) 0

@[simp] theorem total_nil : total [] = 0 := rfl

@[simp] theorem total_cons (segment : Segment) (rest : List Segment) :
    total (segment :: rest) = segment.size + total rest := rfl

@[simp] theorem total_append (left right : List Segment) :
    total (left ++ right) = total left + total right := by
  induction left with
  | nil => simp
  | cons segment rest ih => simp [ih, Nat.add_assoc]

private theorem total_filter (segments : List Segment) :
    total segments =
      total (segments.filter (!·.isPadding)) + total (segments.filter (·.isPadding)) := by
  induction segments with
  | nil => rfl
  | cons segment rest ih =>
    cases segment <;> simp [isPadding, ih] <;> omega

private theorem total_map_component (components : List Component) :
    total (components.map .component) =
      components.foldr (fun component bytes => component.size + bytes) 0 := by
  induction components with
  | nil => rfl
  | cons component rest ih => exact congrArg (component.size + ·) ih

private theorem total_map_component_of_size {components : List Component} {size : Nat}
    (same : ∀ component ∈ components, component.size = size) :
    total (components.map .component) = components.length * size := by
  induction components with
  | nil => simp
  | cons component rest ih =>
    obtain ⟨first, later⟩ := List.forall_mem_cons.mp same
    have head : (Segment.component component).size = size := first
    rw [List.map_cons, total_cons, head, ih later, List.length_cons, Nat.succ_mul, Nat.add_comm]

end Segment

private theorem bytesFor_of_dvd {bits : Nat} (whole : 8 ∣ bits) : bytesFor bits = bits / 8 := by
  unfold bytesFor
  omega

theorem bytesFor_of_not_dvd {bits : Nat} (cut : ¬8 ∣ bits) : bytesFor bits = bits / 8 + 1 := by
  unfold bytesFor
  omega

namespace ElementType

/-- The components of a whole element in memory order. -/
private def elementComponents : ElementType → List Component
  | number n => (List.replicate n.columns n.column).flatten
  | channels list =>
    if list.isPacked then [⟨.red, .unsignedInt, list.packBits⟩] else list.members

/-- The width of a packed type is whole bytes. -/
def PacksBytes (type : ElementType) : Prop := ∀ bits ∈ type.packBits?, 8 ∣ bits

instance (type : ElementType) : Decidable type.PacksBytes :=
  inferInstanceAs (Decidable (∀ bits ∈ type.packBits?, 8 ∣ bits))

private theorem length_elementComponents_number (number : NumberType) :
    (elementComponents (.number number)).length = number.columns * number.rows := by
  simp [elementComponents, NumberType.column]

private theorem size_of_mem_number {number : NumberType} {component : Component}
    (member : component ∈ elementComponents (.number number)) :
    component.size = number.scalarSize := by
  obtain ⟨column, repeated, member⟩ := List.mem_flatten.mp member
  rw [List.eq_of_mem_replicate repeated] at member
  obtain ⟨row, -, rfl⟩ := List.mem_map.mp member
  rfl

private theorem packsBytes_number (number : NumberType) : PacksBytes (.number number) :=
  fun _ none => nomatch none

theorem packsBytes_channels_iff {list : ChannelList} :
    PacksBytes (.channels list) ↔ (list.isPacked = true → 8 ∣ list.packBits) := by
  cases packed : list.isPacked <;> simp [PacksBytes, packBits?, packed]

/-- The components of a type take its size, and a byte more when they are packed into a part of it.
-/
private theorem total_elementComponents (type : ElementType) :
    Segment.total (type.elementComponents.map .component) =
      type.size + if type.PacksBytes then 0 else 1 := by
  cases type with
  | number number =>
    rw [if_pos (packsBytes_number number),
      Segment.total_map_component_of_size fun _ member => size_of_mem_number member,
      length_elementComponents_number, size, Nat.mul_comm number.columns, Nat.mul_comm,
      Nat.mul_assoc, Nat.add_zero]
  | channels list =>
    cases packed : list.isPacked with
    | false =>
      have whole : PacksBytes (.channels list) := packsBytes_channels_iff.mpr (by simp [packed])
      rw [if_pos whole, elementComponents, size, ChannelList.size, packed]
      exact Segment.total_map_component list.members
    | true =>
      have whole : PacksBytes (.channels list) ↔ 8 ∣ list.packBits := by
        simp [packsBytes_channels_iff, packed]
      have one : Segment.total ((elementComponents (.channels list)).map .component) =
          bytesFor list.packBits := by
        simp [elementComponents, packed, Segment.size, Segment.bits]
      rw [one, size, ChannelList.size, if_pos packed]
      by_cases bytes : 8 ∣ list.packBits
      · rw [if_pos (whole.mpr bytes), bytesFor_of_dvd bytes, Nat.add_zero]
      · rw [if_neg (mt whole.mp bytes), bytesFor_of_not_dvd bytes]

end ElementType

/-- Padding stands between the components of a type, and they are the same under every layout. -/
private theorem Layout.filter_segments (layout : Layout) (type : ElementType) :
    (layout.segments type).filter (!·.isPadding) = type.elementComponents.map .component := by
  cases type with
  | number number =>
    have column : (layout.column number).filter (!·.isPadding) = number.column.map .component := by
      rw [column, List.filter_append, Format.filter_map_component,
        Format.filter_replicate_padding, List.append_nil]
    rw [segments, ElementType.elementComponents, List.filter_flatten, List.map_flatten,
      List.map_replicate, List.map_replicate, column]
  | channels list =>
    rw [segments, ElementType.elementComponents]
    split
    · rfl
    · exact Format.filter_map_component list.members

theorem Layout.filter_padding_channels (layout : Layout) (list : ChannelList) :
    (layout.segments (.channels list)).filter (·.isPadding) = [] := by
  rw [segments]
  split
  · rfl
  · simp [List.filter_map, Function.comp_def, Segment.isPadding]

theorem Layout.filter_padding_number (layout : Layout) (number : NumberType) :
    (layout.segments (.number number)).filter (·.isPadding) =
      List.replicate (number.columns * layout.paddingRows number)
        (.padding number.scalarSize) := by
  have column : (layout.column number).filter (·.isPadding) =
      List.replicate (layout.paddingRows number) (.padding number.scalarSize) := by
    simp [Layout.column, List.filter_map, Function.comp_def, Segment.isPadding]
  rw [segments, List.filter_flatten, List.map_replicate, column, List.flatten_replicate_replicate]

namespace Format

theorem total_segments (format : Format) : Segment.total format.segments = format.size := rfl

def paddingSize (format : Format) : Nat :=
  Segment.total (format.segments.filter (·.isPadding))

private theorem paddingSize_packed {format : Format} (packed : format.layout = .packed) :
    format.paddingSize = 0 := by
  have none : format.segments.filter (·.isPadding) = [] := by
    rw [segments, packed]
    cases format.type with
    | number number => exact Layout.filter_padding_number .packed number
    | channels list => exact Layout.filter_padding_channels .packed list
  rw [paddingSize, none, Segment.total_nil]

/-- The size of a format is that of its type and the padding, or a byte more when the type is packed
into a part of it. -/
theorem size_eq (format : Format) :
    format.size =
      format.type.size + (if format.type.PacksBytes then 0 else 1) + format.paddingSize := by
  rw [← format.total_segments, Segment.total_filter, ← ElementType.total_elementComponents,
    ← Layout.filter_segments format.layout]
  rfl

def relaid (format : Format) (layouts : List Layout) : Format :=
  layouts.foldl (fun format layout => { format with layout }) format

theorem relaid_eq (format : Format) (layouts : List Layout) :
    format.relaid layouts = { format with layout := layouts.getLast?.getD format.layout } := by
  induction layouts generalizing format with
  | nil => rfl
  | cons layout layouts ih =>
    have later : format.relaid (layout :: layouts) = { format with layout }.relaid layouts := rfl
    rw [later, ih, List.getLast?_cons]
    rfl

private theorem inputCount_eq (format : Format) :
    format.inputCount = format.type.elementComponents.length := by
  rw [inputCount, segments, Layout.filter_segments, List.length_map]

/-- Whatever layouts are chosen for a format, one after the other, its components are those of its
type in their order, and it takes as many values as before. The packed layout has no padding. Under
each layout the size is that of the type and the padding exactly if the type is not packed into a
part of a byte, and otherwise a byte more. -/
theorem relaid_sizes_iff (format : Format) (layouts : List Layout) :
    let laid := format.relaid layouts
    laid = { format with layout := layouts.getLast?.getD format.layout } ∧
      laid.segments.filter (!·.isPadding) = format.type.elementComponents.map .component ∧
      laid.inputCount = format.inputCount ∧
      (laid.layout = .packed → laid.paddingSize = 0) ∧
      (laid.size = format.type.size + laid.paddingSize ↔ format.type.PacksBytes) ∧
      laid.size =
        format.type.size + (if format.type.PacksBytes then 0 else 1) + laid.paddingSize := by
  intro laid
  have last := relaid_eq format layouts
  have same : laid.type = format.type := congrArg (·.type) last
  have size := laid.size_eq
  rw [same] at size
  refine ⟨last, ?_, ?_, paddingSize_packed, ?_, size⟩
  · rw [← same]
    exact Layout.filter_segments laid.layout laid.type
  · rw [inputCount_eq, inputCount_eq, same]
  · rw [size]
    split
    · rename_i whole
      exact iff_of_true rfl whole
    · rename_i cut
      exact iff_of_false (by omega) cut

/-- Twelve bits are one byte for the type and two for the format. -/
theorem relaid_sizes_cut :
    let members : List Component := [⟨.red, .unsignedNorm, 5⟩, ⟨.green, .unsignedNorm, 7⟩]
    let type : ElementType := .channels { members, packBits := 12 }
    let laid := ({ type } : Format).relaid [.packed]
    laid.layout = .packed ∧ type.size = 1 ∧ laid.size = 2 := by
  decide

end Format

end GpuScript
