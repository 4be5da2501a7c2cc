import GpuScript.Proofs.Format.Names

/-! Reading back the name of a type. The reader takes the words of a name one by one, and gets the
type again unless one mode stands at the end for a stencil and further components: it knows a stencil
only as a word of its own. Every type that a name spells has a name of its own. -/
namespace GpuScript

private theorem wordOfDigits?_toDigits {number : Nat} (small : number < wordLimit) :
    wordOfDigits? (Nat.toDigits 10 number) = some number := by
  have spelled : Decimal.ofDigits (Nat.toDigits 10 number) = number :=
    Nat.ofDigitChars_toDigits (by decide) (by decide)
  have digits : (Nat.toDigits 10 number).all Char.isDigit = true :=
    List.all_eq_true.mpr fun _ => Nat.isDigit_of_mem_toDigits (by decide) (by decide)
  have filled : (Nat.toDigits 10 number).isEmpty = false :=
    List.isEmpty_eq_false_iff.mpr Nat.toDigits_ne_nil
  rw [wordOfDigits?, spelled, digits, filled]
  exact if_pos (by simpa using small)

/-- A component that stands in format names: its width is a positive word, and a stencil has eight
bits. -/
structure Component.Spelled (component : Component) : Prop where
  positive : 0 < component.bits
  small : component.bits < wordLimit
  stencil : component.channel = .stencil → component.bits = 8

namespace FormatName

private theorem channelOfLetter?_letter (channel : Channel) :
    channelOfLetter? channel.letter = if channel = .stencil then none else some channel := by
  cases channel <;> decide

private theorem readComponents?_letters {mode : Mode} {components : List Component}
    (spelled : ∀ component ∈ components, component.Spelled)
    (alike : ∀ component ∈ components, component.mode = mode) :
    readComponents? mode (Component.letters components) =
      if ∃ component ∈ components, component.channel = .stencil then none
      else some components := by
  induction components with
  | nil => simp [Component.letters, readComponents?]
  | cons component rest ih =>
    obtain ⟨own, others⟩ := List.forall_mem_cons.mp spelled
    obtain ⟨same, behind⟩ := List.forall_mem_cons.mp alike
    rw [Component.letters_cons, readComponents?, channelOfLetter?_letter,
      takeWhile_toDigits _ (Component.isDigit_head_letters rest),
      dropWhile_toDigits _ (Component.isDigit_head_letters rest),
      wordOfDigits?_toDigits own.small, ih others behind]
    simp only [List.mem_cons, exists_eq_or_imp]
    by_cases stencil : component.channel = .stencil
    · simp [stencil]
    · by_cases later : ∃ component ∈ rest, component.channel = .stencil
      · simp [stencil, later]
      · simp [stencil, later, own.positive, ← same]

private theorem take?_suffix (suffix : Suffix) (mode : Mode) :
    suffix.take? mode.suffix.toList = some { suffix with mode } := by
  cases mode <;> rfl

private theorem take?_stencil (suffix : Suffix) :
    suffix.take? ['S', '8'] =
      some { suffix with members := ⟨.stencil, suffix.mode, 8⟩ :: suffix.members } := rfl

/-- A word with a width behind its first letter lists components, unless it is the stencil. -/
theorem take?_letters (suffix : Suffix) {letter digit : Char} {rest : List Char}
    (width : digit.isDigit = true) (other : letter :: digit :: rest ≠ ['S', '8']) :
    suffix.take? (letter :: digit :: rest) =
      (readComponents? suffix.mode (letter :: digit :: rest)).map fun members =>
        { suffix with members := members ++ suffix.members } := by
  have unlike {word : String} (spells : String.ofList (letter :: digit :: rest) = word)
      (second : word.toList[1]?.any Char.isDigit = false) : False := by
    rw [← spells, String.toList_ofList] at second
    exact absurd (second.symm.trans width) (by decide)
  unfold Suffix.take?
  split
  case h_1 spells => cases (String.ofList_eq_empty_iff.mp spells)
  case h_2 spells => exact (unlike spells (by decide)).elim
  case h_3 spells => exact (unlike spells (by decide)).elim
  case h_4 spells => exact (unlike spells (by decide)).elim
  case h_5 spells =>
    exact absurd (by rw [← String.toList_ofList (l := letter :: digit :: rest), spells]; rfl) other
  case h_6 =>
    have unnamed : Mode.ofSuffix? (String.ofList (letter :: digit :: rest)) = none := by
      refine Option.eq_none_iff_forall_ne_some.mpr fun mode named => ?_
      exact unlike (suffix_of_ofSuffix? named).symm (by cases mode <;> decide)
    rw [unnamed]
    cases readComponents? suffix.mode (letter :: digit :: rest) <;> rfl

/-- A stencil stands with further components before the one mode of all of them. -/
def Merges (components : List Component) : Prop :=
  (∃ component ∈ components, component.channel = .stencil) ∧ 1 < components.length ∧
    ∀ component ∈ components, ∀ other ∈ components, component.mode = other.mode

instance (components : List Component) : Decidable (Merges components) :=
  inferInstanceAs (Decidable (_ ∧ _ ∧ _))

theorem not_merges_singleton (component : Component) : ¬Merges [component] :=
  fun merges => absurd merges.2.1 (Nat.lt_irrefl 1)

theorem letters_eq_stencil_iff {mode : Mode} {components : List Component}
    (alike : ∀ component ∈ components, component.mode = mode) :
    Component.letters components = ['S', '8'] ↔ components = [⟨.stencil, mode, 8⟩] := by
  have own : Component.letters [⟨.stencil, mode, 8⟩] = ['S', '8'] := by cases mode <;> decide
  refine ⟨fun same => ?_, fun same => same ▸ own⟩
  exact Component.letters_inj (same.trans own.symm) alike (List.forall_mem_singleton.mpr rfl)

/-- A stencil among components of one mode has a word of its own, or it stands with others. -/
theorem merges_iff {mode : Mode} {components : List Component}
    (spelled : ∀ component ∈ components, component.Spelled)
    (alike : ∀ component ∈ components, component.mode = mode)
    (several : components ≠ [⟨.stencil, mode, 8⟩]) :
    Merges components ↔ ∃ component ∈ components, component.channel = .stencil := by
  refine ⟨And.left, fun ⟨component, member, stencil⟩ =>
    ⟨⟨component, member, stencil⟩, ?_, fun left first right second =>
      (alike left first).trans (alike right second).symm⟩⟩
  by_contra single
  have filled := List.length_pos_of_mem member
  obtain ⟨only, rfl⟩ := List.length_eq_one_iff.mp (show components.length = 1 by omega)
  cases List.mem_singleton.mp member
  have width := (spelled component member).stencil stencil
  have kind := alike component member
  refine several ?_
  rw [← stencil, ← width, ← kind]

private theorem take?_componentLetters {suffix : Suffix} {components : List Component}
    (listed : components ≠ []) (spelled : ∀ component ∈ components, component.Spelled)
    (alike : ∀ component ∈ components, component.mode = suffix.mode) :
    suffix.take? (Component.letters components) =
      if Merges components then none
      else some { suffix with members := components ++ suffix.members } := by
  by_cases alone : components = [⟨.stencil, suffix.mode, 8⟩]
  · rw [(letters_eq_stencil_iff alike).mpr alone, take?_stencil, alone,
      if_neg (not_merges_singleton _)]
    rfl
  · obtain ⟨component, rest, same⟩ := List.exists_cons_of_ne_nil listed
    obtain ⟨digit, digits, width⟩ :=
      List.exists_cons_of_ne_nil (Nat.toDigits_ne_nil (n := component.bits) (b := 10))
    have first : digit.isDigit = true :=
      Nat.isDigit_of_mem_toDigits (b := 10) (n := component.bits) (by decide) (by decide)
        (width ▸ List.mem_cons_self)
    have whole : Component.letters components =
        component.channel.letter :: digit :: (digits ++ Component.letters rest) := by
      rw [same, Component.letters_cons, width, List.cons_append]
    have other := whole ▸ mt (letters_eq_stencil_iff alike).mp alone
    rw [whole, take?_letters suffix first other, ← whole, readComponents?_letters spelled alike]
    simp only [merges_iff spelled alike alone]
    split <;> rfl

/-- What a suffix is after the words before it, read from the last to the first. -/
private def Suffix.takeAll? (suffix : Suffix) (words : List (List Char)) : Option Suffix :=
  words.foldrM (fun word (suffix : Suffix) => suffix.take? word) suffix

private theorem takeAll?_append (suffix : Suffix) (front back : List (List Char)) :
    suffix.takeAll? (front ++ back) =
      (suffix.takeAll? back).bind fun after => after.takeAll? front :=
  List.foldrM_append

private theorem takeAll?_cons (suffix : Suffix) (word : List Char) (words : List (List Char)) :
    suffix.takeAll? (word :: words) = (suffix.takeAll? words).bind fun after => after.take? word :=
  List.foldrM_cons

/-- A mode and components of that mode before it. -/
private theorem takeAll?_letters (suffix : Suffix) {mode : Mode} {components : List Component}
    (listed : components ≠ []) (spelled : ∀ component ∈ components, component.Spelled)
    (alike : ∀ component ∈ components, component.mode = mode) :
    suffix.takeAll? [Component.letters components, mode.suffix.toList] =
      if Merges components then none
      else some ⟨mode, suffix.packBits, components ++ suffix.members⟩ := by
  have last : suffix.takeAll? [mode.suffix.toList] = some { suffix with mode } :=
    (takeAll?_cons suffix _ []).trans (take?_suffix suffix mode)
  rw [takeAll?_cons, last, Option.bind_some, take?_componentLetters listed spelled alike]

private theorem takeAll?_pairs (suffix : Suffix) {components : List Component}
    (spelled : ∀ component ∈ components, component.Spelled) :
    ∃ mode, suffix.takeAll? (components.flatMap Component.words) =
      some ⟨mode, suffix.packBits, components ++ suffix.members⟩ := by
  induction components with
  | nil => exact ⟨suffix.mode, rfl⟩
  | cons component rest ih =>
    obtain ⟨own, others⟩ := List.forall_mem_cons.mp spelled
    obtain ⟨mode, later⟩ := ih others
    have single : component.words =
        [Component.letters [component], component.mode.suffix.toList] := by
      simp [Component.words, Component.letters]
    refine ⟨component.mode, ?_⟩
    rw [List.flatMap_cons, takeAll?_append, later, Option.bind_some, single,
      takeAll?_letters _ (List.cons_ne_nil component []) (List.forall_mem_singleton.mpr own)
        (List.forall_mem_singleton.mpr rfl), if_neg (not_merges_singleton component)]
    rfl

/-- The components of a name are read back, unless a stencil is merged with others. -/
private theorem takeAll?_componentWords (suffix : Suffix) {components : List Component}
    (listed : components ≠ []) (spelled : ∀ component ∈ components, component.Spelled) :
    ∃ mode, suffix.takeAll? (ElementType.componentWords components) =
      if Merges components then none
      else some ⟨mode, suffix.packBits, components ++ suffix.members⟩ := by
  obtain ⟨first, rest, rfl⟩ := List.exists_cons_of_ne_nil listed
  rw [ElementType.componentWords]
  split
  · rename_i uniform
    have alike : ∀ component ∈ first :: rest, component.mode = first.mode :=
      fun component member => beq_iff_eq.mp (List.all_eq_true.mp uniform component member)
    exact ⟨first.mode, takeAll?_letters suffix listed spelled alike⟩
  · rename_i mixed
    obtain ⟨mode, read⟩ := takeAll?_pairs suffix spelled
    refine ⟨mode, read.trans (if_neg fun merges => mixed ?_).symm⟩
    exact List.all_eq_true.mpr fun component member =>
      beq_iff_eq.mpr (merges.2.2 component member first List.mem_cons_self)

/-- A pack width that a word of a name sets. -/
def packWidths : List Nat := [0, 8, 16, 32]

/-- What has been read lists components that can be written again. -/
private structure Suffix.Spelled (suffix : Suffix) : Prop where
  members : ∀ component ∈ suffix.members, component.Spelled
  packed : suffix.packBits ∈ packWidths

private theorem wordOfDigits?_lt {text : List Char} {bits : Nat}
    (read : wordOfDigits? text = some bits) : bits < wordLimit := by
  unfold wordOfDigits? at read
  split at read
  · rename_i fits
    rw [← Option.some.inj read]
    exact of_decide_eq_true (Bool.and_eq_true_iff.mp fits).2
  · cases read

private theorem channelOfLetter?_ne_stencil {letter : Char} {channel : Channel}
    (named : channelOfLetter? letter = some channel) : channel ≠ .stencil := by
  unfold channelOfLetter? at named
  split at named
  all_goals first | cases named; decide | cases named

private theorem spelled_readComponents? {mode : Mode} {text : List Char} {members : List Component}
    (read : readComponents? mode text = some members) :
    ∀ component ∈ members, component.Spelled := by
  fun_induction readComponents? mode text generalizing members with
  | case1 =>
    cases read
    exact List.forall_mem_nil _
  | case2 letter text ih =>
    obtain ⟨channel, named, read⟩ := Option.bind_eq_some_iff.mp read
    obtain ⟨bits, width, read⟩ := Option.bind_eq_some_iff.mp read
    obtain ⟨rest, later, read⟩ := Option.bind_eq_some_iff.mp read
    have other := channelOfLetter?_ne_stencil named
    rw [← Option.some.inj read]
    split
    · rename_i positive
      exact List.forall_mem_cons.mpr
        ⟨⟨positive, wordOfDigits?_lt width, fun stencil => absurd stencil other⟩, ih later⟩
    · exact ih later

private theorem spelled_take? {suffix after : Suffix} {word : List Char} (spelled : suffix.Spelled)
    (taken : suffix.take? word = some after) : after.Spelled := by
  obtain ⟨members, packed⟩ := spelled
  unfold Suffix.take? at taken
  split at taken
  case h_1 => cases taken
  case h_2 =>
    cases taken
    exact ⟨members, (by decide : 8 ∈ packWidths)⟩
  case h_3 =>
    cases taken
    exact ⟨members, (by decide : 16 ∈ packWidths)⟩
  case h_4 =>
    cases taken
    exact ⟨members, (by decide : 32 ∈ packWidths)⟩
  case h_5 =>
    cases taken
    have own : (Component.mk .stencil suffix.mode 8).Spelled :=
      ⟨(by decide : 0 < 8), (by decide : 8 < wordLimit), fun _ => rfl⟩
    exact ⟨List.forall_mem_cons.mpr ⟨own, members⟩, packed⟩
  case h_6 =>
    split at taken
    · cases taken
      exact ⟨members, packed⟩
    · obtain ⟨read, listed, taken⟩ := Option.bind_eq_some_iff.mp taken
      cases taken
      exact ⟨List.forall_mem_append.mpr ⟨spelled_readComponents? listed, members⟩, packed⟩

private theorem spelled_takeAll? {suffix after : Suffix} {words : List (List Char)}
    (spelled : suffix.Spelled) (taken : suffix.takeAll? words = some after) : after.Spelled := by
  induction words generalizing after with
  | nil =>
    cases taken
    exact spelled
  | cons word rest ih =>
    rw [takeAll?_cons] at taken
    obtain ⟨between, later, first⟩ := Option.bind_eq_some_iff.mp taken
    exact spelled_take? (ih later) first

theorem spelled_scalarOfData? {data : String} {bits : Nat} {mode : Mode} (row : Nat)
    (named : scalarOfData? data = some (bits, mode)) :
    (Component.mk (.ofRow row) mode bits).Spelled := by
  have colour : Channel.ofRow row ≠ .stencil := by
    unfold Channel.ofRow
    split <;> decide
  have width : 0 < bits ∧ bits < wordLimit := by
    unfold scalarOfData? at named
    split at named
    all_goals first | cases named; decide | cases named
  exact ⟨width.1, width.2, fun stencil => absurd stencil colour⟩

theorem countOfShaderType?_ne_zero {shader : List Char} {count : Nat}
    (counted : countOfShaderType? shader = some count) : count ≠ 0 := by
  have positive (digits : List Char)
      (vector : (wordOfText? digits).filter (fun count => 2 ≤ count && count ≤ 4) = some count) :
      count ≠ 0 := by
    have bounds := (Option.filter_eq_some_iff.mp vector).2
    rintro rfl
    cases bounds
  unfold countOfShaderType? at counted
  dsimp only at counted
  split at counted
  · cases counted
    decide
  · split at counted
    · exact positive _ counted
    · split at counted
      · exact positive _ counted
      · cases counted
    · cases counted

end FormatName

namespace ElementType

/-- A type that a name spells: components that can be written, and a pack width or none. -/
private inductive Spelled : ElementType → Prop where
  | mk {members : List Component} {packBits : Nat} (listed : members ≠ [])
      (spelled : ∀ component ∈ members, component.Spelled)
      (packed : packBits ∈ FormatName.packWidths) : Spelled (.ofComponents members packBits)

private theorem spelled_of_ofName? {name : String} {type : ElementType}
    (named : ofName? name = some type) : type.Spelled := by
  unfold ofName? at named
  split at named
  · obtain ⟨⟨bits, mode⟩, known, named⟩ := Option.bind_eq_some_iff.mp named
    obtain ⟨count, counted, named⟩ := Option.bind_eq_some_iff.mp named
    have filled := FormatName.countOfShaderType?_ne_zero counted
    rw [← Option.some.inj named]
    refine .mk (by simpa using filled) ?_ (by decide)
    intro component member
    obtain ⟨row, -, rfl⟩ := List.mem_map.mp member
    exact FormatName.spelled_scalarOfData? row known
  · obtain ⟨suffix, taken, named⟩ := Option.bind_eq_some_iff.mp named
    have nothing : FormatName.Suffix.Spelled {} := ⟨nofun, by decide⟩
    obtain ⟨spelled, packed⟩ := FormatName.spelled_takeAll? nothing taken
    split at named
    · cases named
    · rename_i filled
      rw [← Option.some.inj named]
      exact ⟨by simpa using filled, spelled, packed⟩

section Canonical

variable (members : List Component) (packBits : Nat)

theorem components_ofComponents : (ofComponents members packBits).components = members := by
  unfold ofComponents
  split <;> rfl

theorem packBits?_ofComponents :
    (ofComponents members packBits).packBits? = if 0 < packBits then some packBits else none := by
  unfold ofComponents
  split
  · rfl
  · simp [packBits?, ChannelList.isPacked]

theorem isMatrix_ofComponents : (ofComponents members packBits).isMatrix = false := by
  unfold ofComponents
  split <;> rfl

end Canonical

private theorem takeAll?_packWords {packBits : Nat} (packed : packBits ∈ FormatName.packWidths) :
    FormatName.Suffix.takeAll? {} (packWords (if 0 < packBits then some packBits else none)) =
      some { packBits } := by
  simp only [FormatName.packWidths, List.mem_cons, List.not_mem_nil, or_false] at packed
  rcases packed with rfl | rfl | rfl | rfl <;> rfl

/-- A name made of these words is no pair of vertex data and shader type. -/
theorem ofName?_of_words {type : ElementType} {name : String}
    (words : splitAll '_' name.toList = type.nameWords) :
    ofName? name = FormatName.read? name.toList := by
  have plain : '/' ∉ name.toList := by
    intro member
    rcases mem_splitAll '_' member with bar | ⟨word, part, held⟩
    · exact absurd bar (by decide)
    · rw [words, nameWords] at part
      rcases List.mem_append.mp part with listed | packed
      · exact absurd (isAlphanum_componentWords _ word listed '/' held) (by decide)
      · exact absurd (isAlphanum_packWords _ word packed '/' held) (by decide)
  have whole : splitFirst? ['/'] name.toList = none :=
    splitFirst?_eq_none_iff.mpr fun within => plain (within.subset List.mem_cons_self)
  rw [ofName?, whole]

theorem read?_of_words {members : List Component} {packBits : Nat} {text : List Char}
    (listed : members ≠ []) (spelled : ∀ component ∈ members, component.Spelled)
    (packed : packBits ∈ FormatName.packWidths)
    (words : splitAll '_' text = (ofComponents members packBits).nameWords) :
    FormatName.read? text =
      if FormatName.Merges members then none else some (ofComponents members packBits) := by
  have taken : FormatName.Suffix.takeAll? {} (splitAll '_' text) =
      FormatName.Suffix.takeAll? { packBits } (componentWords members) := by
    rw [words, nameWords, components_ofComponents, packBits?_ofComponents,
      FormatName.takeAll?_append, takeAll?_packWords packed, Option.bind_some]
  obtain ⟨mode, read⟩ := FormatName.takeAll?_componentWords { packBits } listed spelled
  change ((FormatName.Suffix.takeAll? {} (splitAll '_' text)).bind fun suffix =>
    if suffix.members.isEmpty then none else some (ofComponents suffix.members suffix.packBits)) = _
  rw [taken, read]
  split
  · rfl
  · simp [listed]

/-- One mode stands at the end of the type's name for a stencil and further components. -/
def MergesStencil (type : ElementType) : Prop := FormatName.Merges type.components

/-- A type that a name spells has a name of its own, which spells the type again exactly when the
name does not put one mode behind a stencil and further components; such a name spells nothing. -/
theorem ofName?_name?_iff {name : String} {type : ElementType} (named : ofName? name = some type) :
    ∃ own, type.name? = some own ∧ (ofName? own = some type ↔ ¬type.MergesStencil) ∧
      (type.MergesStencil → ofName? own = none) := by
  obtain ⟨listed, spelled, packed⟩ := spelled_of_ofName? named
  rename_i members packBits
  obtain ⟨first, rest, same⟩ := List.exists_cons_of_ne_nil listed
  have bears : ∃ own, (ofComponents members packBits).name? = some own := by
    rw [name?, isMatrix_ofComponents, components_ofComponents, same]
    exact ⟨_, rfl⟩
  obtain ⟨own, bears⟩ := bears
  obtain ⟨-, -, words⟩ := splitAll_name? bears
  have read := (ofName?_of_words words).trans (read?_of_words listed spelled packed words)
  refine ⟨own, bears, ?_⟩
  rw [MergesStencil, components_ofComponents, read]
  by_cases merges : FormatName.Merges members <;> simp [merges]

/-- A depth and a stencil with modes of their own are read back. -/
theorem ofName?_name?_iff_mixed :
    let type : ElementType :=
      .channels ⟨[⟨.depth, .unsignedNorm, 24⟩, ⟨.stencil, .unsignedInt, 8⟩], 0⟩
    ofName? "D24_UNORM_S8_UINT" = some type ∧ ¬type.MergesStencil ∧
      ∃ own, type.name? = some own ∧ ofName? own = some type := by
  intro type
  have named : ofName? "D24_UNORM_S8_UINT" = some type := by decide +revert +kernel
  have apart : ¬type.MergesStencil := by
    change ¬FormatName.Merges type.components
    decide
  obtain ⟨own, bears, reads, -⟩ := ofName?_name?_iff named
  exact ⟨named, apart, own, bears, reads.mpr apart⟩

/-- A depth and a stencil of one mode have a name that spells nothing. -/
theorem ofName?_name?_merged :
    let type : ElementType :=
      .channels ⟨[⟨.depth, .unsignedInt, 24⟩, ⟨.stencil, .unsignedInt, 8⟩], 0⟩
    ofName? "D24_S8_UINT" = some type ∧ type.name? = some "D24S8_UINT" ∧
      ofName? "D24S8_UINT" = none := by
  decide +kernel

end ElementType

end GpuScript
