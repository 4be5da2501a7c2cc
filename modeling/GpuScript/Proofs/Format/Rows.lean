import GpuScript.Format.Datum

namespace GpuScript

theorem DatumName.rows_scalar? {name : String} {number : NumberType}
    (found : scalar? name = some number) : number.rows ≠ 0 := by
  unfold scalar? at found
  split at found <;> first | (cases found; decide) | cases found

theorem DatumName.dimension?_ne_zero {text : List Char} {count : Nat}
    (found : dimension? text = some count) : count ≠ 0 := by
  have bounds := (Option.filter_eq_some_iff.mp found).2
  simp only [Bool.and_eq_true, decide_eq_true_eq] at bounds
  omega

theorem DatumName.rows_vector? {before after : List Char} {number : NumberType}
    (found : vector? before after = some number) : number.rows ≠ 0 := by
  obtain ⟨⟨mode, bits⟩, -, found⟩ := Option.bind_eq_some_iff.mp found
  dsimp only at found
  split at found
  · cases found
    exact Nat.succ_ne_zero 3
  · obtain ⟨rows, counted, same⟩ := Option.bind_eq_some_iff.mp found
    cases same
    exact dimension?_ne_zero counted

theorem DatumName.rows_shape? {text : List Char} {shape : Nat × Nat}
    (found : shape? text = some shape) : shape.2 ≠ 0 := by
  unfold shape? at found
  split at found
  · obtain ⟨columns, -, found⟩ := Option.bind_eq_some_iff.mp found
    obtain ⟨rows, counted, same⟩ := Option.bind_eq_some_iff.mp found
    cases same
    exact dimension?_ne_zero counted
  · split at found
    · cases found
      decide
    · obtain ⟨count, counted, rfl⟩ := Option.map_eq_some_iff.mp found
      exact dimension?_ne_zero counted

theorem DatumName.rows_matrix? {before after : List Char} {number : NumberType}
    (found : matrix? before after = some number) : number.rows ≠ 0 := by
  unfold matrix? at found
  split at found
  iterate 2
    · obtain ⟨bits, -, found⟩ := Option.bind_eq_some_iff.mp found
      obtain ⟨shape, shaped, same⟩ := Option.bind_eq_some_iff.mp found
      cases same
      exact rows_shape? shaped
  · cases found

theorem ElementType.rows_ofComponents {members : List Component} {packBits : Nat}
    {number : NumberType} (same : ofComponents members packBits = .number number) :
    number.rows ≠ 0 := by
  unfold ofComponents at same
  split at same
  · cases same
    exact Nat.one_ne_zero
  · cases same

theorem ElementType.rows_ofName? {name : String} {number : NumberType}
    (found : ofName? name = some (.number number)) : number.rows ≠ 0 := by
  unfold ofName? at found
  split at found
  · obtain ⟨⟨bits, mode⟩, -, found⟩ := Option.bind_eq_some_iff.mp found
    obtain ⟨count, -, same⟩ := Option.bind_eq_some_iff.mp found
    exact rows_ofComponents (Option.some.inj same)
  · obtain ⟨suffix, -, found⟩ := Option.bind_eq_some_iff.mp found
    split at found
    · cases found
    · exact rows_ofComponents (Option.some.inj found)

theorem ElementType.rows_ofDatum? {name : String} {number : NumberType}
    (found : ofDatum? name = some (.number number)) : number.rows ≠ 0 := by
  unfold ofDatum? at found
  split at found
  · rename_i scalar known
    cases found
    exact DatumName.rows_scalar? known
  · split at found
    · obtain ⟨vector, known, same⟩ := Option.map_eq_some_iff.mp found
      cases same
      exact DatumName.rows_vector? known
    · split at found
      · obtain ⟨matrix, known, same⟩ := Option.map_eq_some_iff.mp found
        cases same
        exact DatumName.rows_matrix? known
      · exact rows_ofName? found

namespace Format

/-- How many values a list is counted by: the rows of a column, or the members of a list. -/
def rowLength (format : Format) : Nat := max format.type.rows 1

theorem filter_replicate_padding (count bytes : Nat) :
    (List.replicate count (Segment.padding bytes)).filter (!·.isPadding) = [] := by
  simp [Segment.isPadding]

theorem filter_map_component (components : List Component) :
    (components.map Segment.component).filter (!·.isPadding) =
      components.map Segment.component := by
  apply List.filter_eq_self.mpr
  intro segment member
  obtain ⟨component, -, rfl⟩ := List.mem_map.mp member
  rfl

theorem inputCount_number {format : Format} {number : NumberType}
    (same : format.type = .number number) :
    format.inputCount = number.columns * number.rows := by
  have column : ((format.layout.column number).filter (!·.isPadding)).length = number.rows := by
    rw [Layout.column, List.filter_append, filter_map_component, filter_replicate_padding]
    simp [NumberType.column]
  rw [inputCount, segments, same, Layout.segments, List.filter_flatten, List.length_flatten,
    List.map_replicate, List.map_replicate, List.sum_replicate_nat, column]

theorem inputCount_channels {format : Format} {list : ChannelList}
    (same : format.type = .channels list) :
    format.inputCount = if list.isPacked then 1 else list.members.length := by
  rw [inputCount, segments, same, Layout.segments]
  split
  · rfl
  · rw [filter_map_component, List.length_map]

/-- Rows are elements for scalars, vectors and lists of channels that are not packed. -/
theorem rowLength_eq_inputCount_iff {format : Format} (filled : format.inputCount ≠ 0) :
    format.rowLength = format.inputCount ↔
      format.type.isMatrix = false ∧ (format.isPacked = true → format.type.rows ≤ 1) := by
  rw [rowLength, isPacked]
  cases same : format.type with
  | number number =>
    rw [inputCount_number same] at filled ⊢
    obtain ⟨columns, rows⟩ := Nat.mul_ne_zero_iff.mp filled
    have whole : max number.rows 1 = number.rows := by omega
    have single : number.rows = number.columns * number.rows ↔ number.columns = 1 := by
      rw [eq_comm, Nat.mul_eq_right rows]
    have matrix : (ElementType.number number).isMatrix = false ↔ ¬1 < number.columns :=
      decide_eq_false_iff_not
    simp only [ElementType.rows, whole, single, matrix, ElementType.isPacked,
      ElementType.packBits?, Option.isSome_none, Bool.false_eq_true, false_implies, and_true]
    omega
  | channels list =>
    rw [inputCount_channels same] at filled ⊢
    have plain : (ElementType.channels list).isMatrix = false := rfl
    cases packed : list.isPacked with
    | true =>
      simp only [ElementType.rows, ElementType.isPacked, ElementType.packBits?, packed, plain,
        if_true, Option.isSome_some, true_implies, true_and]
      omega
    | false =>
      simp only [packed, Bool.false_eq_true, if_false] at filled
      simp only [ElementType.rows, ElementType.isPacked, ElementType.packBits?, packed, plain,
        Bool.false_eq_true, if_false, Option.isSome_none, false_implies, and_self, iff_true]
      omega

/-- An element of some size that a data type name gives takes a value. -/
theorem inputCount_ne_zero {name : String} {format : Format}
    (known : ElementType.ofDatum? name = some format.type) (sized : format.size ≠ 0) :
    format.inputCount ≠ 0 := by
  have filled : format.segments ≠ [] := by
    intro none
    apply sized
    rw [size, none]
    rfl
  cases same : format.type with
  | number number =>
    rw [inputCount_number same]
    rw [same] at known
    refine Nat.mul_ne_zero_iff.mpr ⟨fun none => filled ?_, ElementType.rows_ofDatum? known⟩
    rw [segments, same, Layout.segments, none]
    rfl
  | channels list =>
    rw [inputCount_channels same]
    split
    · exact Nat.one_ne_zero
    · rename_i plain
      intro none
      apply filled
      rw [segments, same, Layout.segments, if_neg plain, List.length_eq_zero_iff.mp none]
      rfl

theorem type_of_ofDatum {name : String} {format : Format}
    (named : ofDatum name = .ok format) : ElementType.ofDatum? name = some format.type := by
  unfold ofDatum ElementType.ofDatum at named
  split at named
  · rename_i type found
    cases named
    exact found
  · cases named

end Format

end GpuScript
