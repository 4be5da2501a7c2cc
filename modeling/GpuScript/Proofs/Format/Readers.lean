import GpuScript.Format.Datum
import Mathlib.Data.List.Infix

/-! The two readers of type names. Whatever is a format name spells the same type as a data type
name, unless `vec` stands in it, which only happens in pairs with a vector; and the two formats are
tagged alike but for the one image format whose name is not the name of its type. -/
namespace GpuScript

namespace FormatName

private theorem isLower_of_isDigit {letter : Char} (digit : letter.isDigit = true) :
    letter.isLower = false := by
  refine Bool.eq_false_iff.mpr fun lower => ?_
  have atMost : letter.val ≤ '9'.val := of_decide_eq_true (Bool.and_eq_true_iff.mp digit).2
  have atLeast : 'a'.val ≤ letter.val := of_decide_eq_true (Bool.and_eq_true_iff.mp lower).1
  exact absurd (UInt32.le_trans atLeast atMost) (by decide)

private theorem isLower_channelOfLetter? {letter : Char} {channel : Channel}
    (named : channelOfLetter? letter = some channel) : letter.isLower = false := by
  unfold channelOfLetter? at named
  split at named <;> first | rfl | cases named

private theorem isLower_readComponents? {mode : Mode} {text : List Char} {members : List Component}
    (read : readComponents? mode text = some members) :
    ∀ letter ∈ text, letter.isLower = false := by
  fun_induction readComponents? mode text generalizing members with
  | case1 => exact nofun
  | case2 letter text ih =>
    obtain ⟨channel, named, read⟩ := Option.bind_eq_some_iff.mp read
    obtain ⟨bits, -, read⟩ := Option.bind_eq_some_iff.mp read
    obtain ⟨rest, later, -⟩ := Option.bind_eq_some_iff.mp read
    intro other member
    rcases List.mem_cons.mp member with rfl | behind
    · exact isLower_channelOfLetter? named
    · rw [← List.takeWhile_append_dropWhile (p := Char.isDigit) (l := text)] at behind
      rcases List.mem_append.mp behind with digit | rest
      · exact isLower_of_isDigit (List.all_eq_true.mp List.all_takeWhile other digit)
      · exact ih later other rest

theorem suffix_of_ofSuffix? {word : String} {mode : Mode}
    (named : Mode.ofSuffix? word = some mode) :
    mode.suffix = word := by
  have same := List.find?_some named
  exact beq_iff_eq.mp same

private theorem isLower_suffix (mode : Mode) :
    mode.suffix.toList.all fun letter => letter.isLower = false := by
  cases mode <;> decide

theorem forall_letters {holds : Char → Prop} [DecidablePred holds] {letters : List Char}
    {word : String} (spells : String.ofList letters = word)
    (every : word.toList.all fun letter => holds letter) : ∀ letter ∈ letters, holds letter := by
  rw [← spells, String.toList_ofList] at every
  exact fun letter member => of_decide_eq_true (List.all_eq_true.mp every letter member)

private theorem isLower_take? {suffix after : Suffix} {word : List Char}
    (taken : suffix.take? word = some after) : ∀ letter ∈ word, letter.isLower = false := by
  unfold Suffix.take? at taken
  split at taken
  case h_1 => cases taken
  case h_2 spells => exact forall_letters spells (by decide)
  case h_3 spells => exact forall_letters spells (by decide)
  case h_4 spells => exact forall_letters spells (by decide)
  case h_5 spells => exact forall_letters spells (by decide)
  case h_6 =>
    split at taken
    · rename_i mode named
      exact forall_letters (suffix_of_ofSuffix? named).symm (isLower_suffix mode)
    · obtain ⟨members, read, -⟩ := Option.bind_eq_some_iff.mp taken
      exact isLower_readComponents? read

private theorem isLower_foldrM {words : List (List Char)} {start last : Suffix}
    (taken : words.foldrM (fun word (suffix : Suffix) => suffix.take? word) start = some last) :
    ∀ word ∈ words, ∀ letter ∈ word, letter.isLower = false := by
  induction words generalizing last with
  | nil => exact nofun
  | cons word rest ih =>
    rw [List.foldrM_cons] at taken
    obtain ⟨suffix, later, first⟩ := Option.bind_eq_some_iff.mp taken
    exact List.forall_mem_cons.mpr ⟨isLower_take? first, ih later⟩

theorem isLower_read? {text : List Char} {type : ElementType} (found : read? text = some type) :
    ∀ letter ∈ text, letter.isLower = false := by
  obtain ⟨suffix, taken, -⟩ := Option.bind_eq_some_iff.mp found
  intro letter member
  rcases mem_splitAll '_' member with rfl | ⟨word, part, held⟩
  · rfl
  · exact isLower_foldrM taken word part letter held

private theorem mem_of_scalarOfData? {data : String} {scalar : Nat × Mode}
    (named : scalarOfData? data = some scalar) :
    data ∈ ["byte", "ubyte", "short", "ushort", "int", "uint", "half", "float", "double"] := by
  unfold scalarOfData? at named
  split at named <;> first | decide | cases named

/-- The name of vertex data has none of the letters by which a vector or a matrix is found. -/
theorem letters_of_scalarOfData? {data : List Char} {scalar : Nat × Mode}
    (named : scalarOfData? (String.ofList data) = some scalar) :
    ∀ letter ∈ data, letter ≠ 'v' ∧ letter ≠ 'm' := by
  have plain : ∀ word ∈ ["byte", "ubyte", "short", "ushort", "int", "uint", "half", "float",
      "double"], word.toList.all fun letter => letter ≠ 'v' ∧ letter ≠ 'm' := by decide
  exact forall_letters rfl (plain _ (mem_of_scalarOfData? named))

/-- A shader type is a vector, or it has no letter by which a matrix is found. -/
theorem letters_of_countOfShaderType? {shader : List Char} {count : Nat}
    (counted : countOfShaderType? shader = some count) :
    ['v', 'e', 'c'] <:+: shader ∨ 'm' ∉ shader := by
  unfold countOfShaderType? at counted
  dsimp only at counted
  split at counted
  · rename_i scalar
    have plain : ∀ word ∈ ["float", "double", "int", "uint"], 'm' ∉ word.toList := by decide
    have absent := plain _ scalar
    rw [String.toList_ofList] at absent
    exact .inr absent
  · split at counted
    case h_1 digits _ => exact .inl ⟨[], digits, rfl⟩
    case h_2 kind digits _ => exact .inl ⟨[kind], digits, rfl⟩
    case h_3 => cases counted

end FormatName

namespace DatumName

theorem words_of_vectorScalar? {letter : Char} {width : List Char} {scalar : Mode × Nat}
    (named : vectorScalar? (letter :: width) = some scalar) :
    letter ∈ ['i', 'u', 'd'] ∧ String.ofList width ∈ ["", "8", "16", "64"] := by
  unfold vectorScalar? at named
  dsimp only at named
  split at named
  case h_4 => cases named
  all_goals
    refine ⟨by decide, ?_⟩
    split at named
    case h_5 => cases named
    all_goals
      rename_i spells
      rw [spells]
      decide

private theorem bar_of_vectorScalar? {before : List Char} {scalar : Mode × Nat}
    (named : vectorScalar? before = some scalar) : '/' ∉ before := by
  cases before with
  | nil => exact List.not_mem_nil
  | cons letter width =>
    obtain ⟨kind, wide⟩ := words_of_vectorScalar? named
    have plain : ∀ word ∈ ["", "8", "16", "64"], '/' ∉ word.toList := by decide
    have behind := plain _ wide
    rw [String.toList_ofList] at behind
    rintro (_ | ⟨_, later⟩)
    · exact absurd kind (by decide)
    · exact behind later

private theorem vector?_of_bar {before after : List Char} (bar : '/' ∈ before) :
    vector? before after = none := by
  refine Option.eq_none_iff_forall_ne_some.mpr fun number found => ?_
  obtain ⟨scalar, named, -⟩ := Option.bind_eq_some_iff.mp found
  exact bar_of_vectorScalar? named bar

end DatumName

namespace ElementType

theorem scalar?_of_ofName? {name : String} {type : ElementType}
    (named : ofName? name = some type) : DatumName.scalar? name = none := by
  have unnamed : ∀ word ∈ ["int", "uint", "int8_t", "uint8_t", "int16_t", "uint16_t", "int64_t",
      "uint64_t", "float", "double"], ofName? word = none := by decide +kernel
  refine Option.eq_none_iff_forall_ne_some.mpr fun scalar found => ?_
  have known : name ∈ ["int", "uint", "int8_t", "uint8_t", "int16_t", "uint16_t", "int64_t",
      "uint64_t", "float", "double"] := by
    unfold DatumName.scalar? at found
    split at found <;> first | decide | cases found
  cases (unnamed name known).symm.trans named

/-- A format name with `vec` in it is a pair, and the bar of the pair stands before. -/
theorem bar_of_infix {name : String} {type : ElementType} (named : ofName? name = some type)
    {before after : List Char} (cut : before ++ ['v', 'e', 'c'] ++ after = name.toList) :
    '/' ∈ before := by
  unfold ofName? at named
  split at named
  · rename_i data shader found
    obtain ⟨scalar, known, -⟩ := Option.bind_eq_some_iff.mp named
    have whole := (splitFirst?_append found).trans cut.symm
    rw [List.append_assoc, List.append_assoc] at whole
    rcases List.append_eq_append_iff.mp whole with ⟨between, rfl, rest⟩ | ⟨between, rfl, rest⟩
    · cases between with
      | nil => cases rest
      | cons letter between =>
        obtain ⟨rfl, -⟩ := List.cons.inj rest
        simp
    · cases between with
      | nil => cases rest
      | cons letter between =>
        obtain ⟨rfl, -⟩ := List.cons.inj rest
        have vector := (FormatName.letters_of_scalarOfData? known 'v' (by simp)).1
        exact absurd rfl vector
  · have small := FormatName.isLower_read? named 'v' (by simp [← cut])
    cases small

/-- A format name in which no `vec` stands has no letter by which a matrix is found. -/
theorem not_mem_of_not_infix {name : String} {type : ElementType}
    (named : ofName? name = some type) (plain : ¬['v', 'e', 'c'] <:+: name.toList) :
    'm' ∉ name.toList := by
  unfold ofName? at named
  split at named
  · rename_i data shader found
    obtain ⟨scalar, known, named⟩ := Option.bind_eq_some_iff.mp named
    obtain ⟨count, counted, -⟩ := Option.bind_eq_some_iff.mp named
    rw [← splitFirst?_append found] at plain ⊢
    rcases FormatName.letters_of_countOfShaderType? counted with vector | absent
    · exact absurd (vector.trans (List.suffix_append _ _).isInfix) plain
    · have free : 'm' ∉ data := fun member =>
        (FormatName.letters_of_scalarOfData? known 'm' member).2 rfl
      simp [free, absent]
  · intro member
    cases FormatName.isLower_read? named 'm' member

theorem ofDatum?_of_infix {name : String} {type : ElementType} (named : ofName? name = some type)
    (vector : ['v', 'e', 'c'] <:+: name.toList) : ofDatum? name = none := by
  rw [ofDatum?, scalar?_of_ofName? named]
  cases cut : splitFirst? ['v', 'e', 'c'] name.toList with
  | none => exact absurd vector (splitFirst?_eq_none_iff.mp cut)
  | some parts =>
    have bar := bar_of_infix named (splitFirst?_append cut)
    dsimp only
    rw [DatumName.vector?_of_bar bar]
    rfl

theorem ofDatum?_of_not_infix {name : String} {type : ElementType}
    (named : ofName? name = some type) (plain : ¬['v', 'e', 'c'] <:+: name.toList) :
    ofDatum? name = some type := by
  have square : ¬['m', 'a', 't'] <:+: name.toList := fun within =>
    not_mem_of_not_infix named plain (within.subset List.mem_cons_self)
  rw [ofDatum?, scalar?_of_ofName? named, splitFirst?_eq_none_iff.mpr plain,
    splitFirst?_eq_none_iff.mpr square]
  exact named

/-- What is a format name is a data type name as well, of the same type, exactly when no `vec`
stands in it; a pair with a vector spells no data type. -/
theorem ofDatum_of_ofName? {name : String} {type : ElementType}
    (named : ofName? name = some type) :
    (ofDatum name = .ok type ↔ ¬['v', 'e', 'c'] <:+: name.toList) ∧
      (['v', 'e', 'c'] <:+: name.toList → ofDatum name = .error (.codec (.unknownType name))) := by
  have refused (vector : ['v', 'e', 'c'] <:+: name.toList) :
      ofDatum name = .error (.codec (.unknownType name)) := by
    rw [ofDatum, ofDatum?_of_infix named vector]
  refine ⟨⟨fun accepted vector => ?_, fun plain => ?_⟩, refused⟩
  · cases accepted.symm.trans (refused vector)
  · rw [ofDatum, ofDatum?_of_not_infix named plain]

/-- A packed format is a data type. -/
theorem ofDatum_of_ofName?_packed :
    let packed : ElementType :=
      .channels ⟨[⟨.red, .unsignedNorm, 5⟩, ⟨.green, .unsignedNorm, 6⟩,
        ⟨.blue, .unsignedNorm, 5⟩], 16⟩
    ofName? "R5G6B5_UNORM_PACK16" = some packed ∧ ofDatum "R5G6B5_UNORM_PACK16" = .ok packed := by
  intro packed
  have named : ofName? "R5G6B5_UNORM_PACK16" = some packed := by decide +revert +kernel
  exact ⟨named, (ofDatum_of_ofName? named).1.mpr (by decide)⟩

/-- A pair of two floats spells a type, but no data type. -/
theorem ofDatum_of_ofName?_vector :
    ofName? "float/vec2" =
      some (.channels ⟨[⟨.red, .signedFloat, 32⟩, ⟨.green, .signedFloat, 32⟩], 0⟩) ∧
      ofDatum "float/vec2" = .error (.codec (.unknownType "float/vec2")) := by
  decide +kernel

end ElementType

namespace Format

/-- The image formats that bear the names of their types: all but one. -/
def namedByType :
    {names : List String //
      ∀ name ∈ names, (ElementType.ofName? name).bind ElementType.name? = some name} :=
  ⟨imageFormatNames.filter (· ≠ "X8_D24_UNORM_PACK32"), by decide +kernel⟩

private theorem name?_of_imageFormat {name : String} (known : name ∈ imageFormatNames)
    (other : name ≠ "X8_D24_UNORM_PACK32") {type : ElementType}
    (named : ElementType.ofName? name = some type) : type.name? = some name := by
  have plain : name ∈ namedByType.val := List.mem_filter.mpr ⟨known, decide_eq_true other⟩
  have same := namedByType.property name plain
  rwa [named, Option.bind_some] at same

theorem ofName?_eq_some {name : String} {format : Format} (named : ofName? name = some format) :
    ∃ type, ElementType.ofName? name = some type ∧
      format = { ofType type with
        tag := (ImageFormat.ofName? name).or (ofType type).tag } := by
  obtain ⟨type, found, named⟩ := Option.bind_eq_some_iff.mp named
  refine ⟨type, found, ?_⟩
  cases tagged : ImageFormat.ofName? name with
  | none =>
    rw [tagged] at named
    exact (Option.some.inj named).symm
  | some tag =>
    rw [tagged] at named
    exact (Option.some.inj named).symm

private theorem ofDatum_eq_ok {name : String} {format : Format} (read : ofDatum name = .ok format) :
    ∃ type, ElementType.ofDatum? name = some type ∧ format = ofType type := by
  unfold ofDatum ElementType.ofDatum at read
  split at read
  · rename_i type found
    exact ⟨type, found, (Except.ok.inj read).symm⟩
  · cases read

/-- The type of a format name has the tag that the name has, with one exception. -/
theorem tag_ofType_iff {name : String} {type : ElementType}
    (named : ElementType.ofName? name = some type) :
    (ofType type).tag = (ImageFormat.ofName? name).or (ofType type).tag ↔
      name ≠ "X8_D24_UNORM_PACK32" := by
  constructor
  · rintro same rfl
    have untagged : ((ElementType.ofName? "X8_D24_UNORM_PACK32").bind fun type =>
        (ofType type).tag) = none := by decide +kernel
    have known : (ImageFormat.ofName? "X8_D24_UNORM_PACK32").isSome := by decide
    rw [named, Option.bind_some] at untagged
    rw [untagged, Option.or_none] at same
    rw [← same] at known
    cases known
  · intro other
    cases tagged : ImageFormat.ofName? name with
    | none => rfl
    | some tag =>
      have own := ImageFormat.ofName?_eq_some_iff.mp tagged
      rw [ofType, name?_of_imageFormat (own ▸ tag.known) other named]
      exact tagged

/-- A name that both readers take gives formats of one type and one layout. They are the same but
for the one image format whose name is not that of its type: it is tagged by its own name alone. -/
theorem ofDatum_eq_iff {name : String} {format spelled : Format}
    (named : ofName? name = some format) (read : ofDatum name = .ok spelled) :
    spelled.type = format.type ∧ spelled.layout = format.layout ∧
      spelled.segments = format.segments ∧
      (spelled = format ↔ name ≠ "X8_D24_UNORM_PACK32") := by
  obtain ⟨type, found, rfl⟩ := ofName?_eq_some named
  obtain ⟨other, taken, rfl⟩ := ofDatum_eq_ok read
  have plain : ¬['v', 'e', 'c'] <:+: name.toList := fun vector => by
    cases (ElementType.ofDatum?_of_infix found vector).symm.trans taken
  cases (ElementType.ofDatum?_of_not_infix found plain).symm.trans taken
  refine ⟨rfl, rfl, rfl, ?_⟩
  rw [← tag_ofType_iff found]
  exact ⟨congrArg Format.tag, congrArg fun tag => { ofType type with tag }⟩

/-- Where each channel has a mode of its own, the name of a type still is that of the format. -/
theorem ofDatum_eq_iff_stencil :
    let type : ElementType :=
      .channels ⟨[⟨.depth, .unsignedNorm, 16⟩, ⟨.stencil, .unsignedInt, 8⟩], 0⟩
    let tagged : Format := { type, tag := some ⟨"D16_UNORM_S8_UINT", by decide⟩ }
    ofName? "D16_UNORM_S8_UINT" = some tagged ∧
      ofDatum "D16_UNORM_S8_UINT" = .ok (ofType type) ∧ ofType type = tagged := by
  intro type tagged
  have named : ofName? "D16_UNORM_S8_UINT" = some tagged := by decide +revert +kernel
  have read : ofDatum "D16_UNORM_S8_UINT" = .ok (ofType type) := by
    clear named
    decide +revert +kernel
  exact ⟨named, read, (ofDatum_eq_iff named read).2.2.2.mpr (by decide)⟩

/-- A name that puts a bar between channels of one mode is not the name of its type, and only the
reader of format names finds its tag. -/
theorem ofDatum_eq_iff_depth :
    let type : ElementType :=
      .channels ⟨[⟨.unused, .unsignedNorm, 8⟩, ⟨.depth, .unsignedNorm, 24⟩], 32⟩
    let tagged : Format := { type, tag := some ⟨"X8_D24_UNORM_PACK32", by decide⟩ }
    ofName? "X8_D24_UNORM_PACK32" = some tagged ∧
      ofDatum "X8_D24_UNORM_PACK32" = .ok { type, tag := none } := by
  decide +kernel

end Format

end GpuScript
