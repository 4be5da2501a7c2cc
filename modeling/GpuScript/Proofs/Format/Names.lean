import GpuScript.Proofs.Format.Readers

/-! Format names as codes of types. A name is a row of words between bars: components with their
widths, the mode of the words before it, and the pack width. The words determine the components and
the pack width, so an image format found by its name has the components of the type it was found
for. -/
namespace GpuScript

theorem toDigits_inj {left right : Nat} (same : Nat.toDigits 10 left = Nat.toDigits 10 right) :
    left = right := by
  rw [← Nat.ofDigitChars_toDigits (b := 10) (n := left) (by decide) (by decide), same]
  exact Nat.ofDigitChars_toDigits (by decide) (by decide)

section Boundary

variable {rest : List Char}

theorem takeWhile_toDigits (number : Nat) (ends : ∀ letter ∈ rest.head?, letter.isDigit = false) :
    (Nat.toDigits 10 number ++ rest).takeWhile Char.isDigit = Nat.toDigits 10 number := by
  have behind : rest.takeWhile Char.isDigit = [] := by
    cases rest with
    | nil => rfl
    | cons letter rest => exact List.takeWhile_cons_of_neg (by simpa using ends)
  rw [List.takeWhile_append_of_pos fun _ => Nat.isDigit_of_mem_toDigits (by decide) (by decide),
    behind, List.append_nil]

theorem dropWhile_toDigits (number : Nat) (ends : ∀ letter ∈ rest.head?, letter.isDigit = false) :
    (Nat.toDigits 10 number ++ rest).dropWhile Char.isDigit = rest := by
  have behind : rest.dropWhile Char.isDigit = rest := by
    cases rest with
    | nil => rfl
    | cons letter rest => exact List.dropWhile_cons_of_neg (by simpa using ends)
  rw [List.dropWhile_append_of_pos fun _ => Nat.isDigit_of_mem_toDigits (by decide) (by decide),
    behind]

end Boundary

theorem Channel.letter_inj {left right : Channel} (same : left.letter = right.letter) :
    left = right := by
  cases left <;> cases right <;> first | rfl | exact absurd same (by decide)

theorem Mode.suffix_inj {left right : Mode}
    (same : left.suffix.toList = right.suffix.toList) : left = right := by
  cases left <;> cases right <;> first | rfl | exact absurd same (by decide)

namespace Component

theorem toList_text (component : Component) :
    component.text.toList = component.channel.letter :: Nat.toDigits 10 component.bits := by
  rw [text, String.toList_append, String.toList_singleton, Nat.toString_eq_repr, Nat.toList_repr]
  rfl

/-- Components one after the other, as in `R8G8`. -/
def letters (components : List Component) : List Char :=
  components.flatMap fun component => component.text.toList

theorem letters_cons (component : Component) (rest : List Component) :
    letters (component :: rest) =
      component.channel.letter :: (Nat.toDigits 10 component.bits ++ letters rest) := by
  rw [letters, List.flatMap_cons, toList_text]
  rfl

theorem isDigit_head_letters (components : List Component) :
    ∀ letter ∈ (letters components).head?, letter.isDigit = false := by
  cases components with
  | nil => exact nofun
  | cons component rest =>
    rw [letters_cons, List.head?_cons]
    rintro _ ⟨⟩
    cases component.channel <;> decide

theorem letters_inj {mode : Mode} {left right : List Component}
    (same : letters left = letters right) (leftMode : ∀ component ∈ left, component.mode = mode)
    (rightMode : ∀ component ∈ right, component.mode = mode) : left = right := by
  induction left generalizing right with
  | nil =>
    cases right with
    | nil => rfl
    | cons component rest => cases same.trans (letters_cons component rest)
  | cons component rest ih =>
    cases right with
    | nil => cases same.symm.trans (letters_cons component rest)
    | cons other more =>
      obtain ⟨firstMode, restMode⟩ := List.forall_mem_cons.mp leftMode
      obtain ⟨otherMode, moreMode⟩ := List.forall_mem_cons.mp rightMode
      rw [letters_cons, letters_cons] at same
      obtain ⟨letter, behind⟩ := List.cons.inj same
      have digits := congrArg (List.takeWhile Char.isDigit) behind
      have later := congrArg (List.dropWhile Char.isDigit) behind
      simp only [takeWhile_toDigits _ (isDigit_head_letters _)] at digits
      simp only [dropWhile_toDigits _ (isDigit_head_letters _)] at later
      have head : component = other := by
        rcases component with ⟨channel, mode, bits⟩
        rcases other with ⟨channel', mode', bits'⟩
        cases Channel.letter_inj letter
        cases toDigits_inj digits
        cases firstMode.trans otherMode.symm
        rfl
      rw [head, ih later restMode moreMode]

/-- A component and its mode, as words of a name. -/
def words (component : Component) : List (List Char) :=
  [component.text.toList, component.mode.suffix.toList]

theorem words_inj {left right : Component} (same : left.words = right.words) : left = right := by
  obtain ⟨text, rest⟩ := List.cons.inj same
  have mode := Mode.suffix_inj (List.cons.inj rest).1
  have alone : letters [left] = letters [right] := by
    simpa only [letters, List.flatMap_cons, List.flatMap_nil, List.append_nil] using text
  have alike := letters_inj alone (List.forall_mem_singleton.mpr mode)
    (List.forall_mem_singleton.mpr rfl)
  exact (List.cons.inj alike).1

private theorem flatMap_words_inj {left right : List Component}
    (same : left.flatMap words = right.flatMap words) : left = right := by
  induction left generalizing right with
  | nil =>
    cases right with
    | nil => rfl
    | cons component rest => cases same
  | cons component rest ih =>
    cases right with
    | nil => cases same
    | cons other more =>
      obtain ⟨head, later⟩ := List.append_inj same rfl
      rw [words_inj head, ih later]

theorem length_flatMap_words (components : List Component) :
    (components.flatMap words).length = 2 * components.length := by
  induction components with
  | nil => rfl
  | cons component rest ih =>
    rw [List.flatMap_cons, List.length_append, ih, List.length_cons]
    change 2 + _ = _
    omega

end Component

namespace ElementType

/-- The components of a name, word by word: one mode stands behind all of them, or each has its
own. -/
def componentWords : List Component → List (List Char)
  | [] => []
  | first :: rest =>
    if (first :: rest).all (·.mode == first.mode) then
      [Component.letters (first :: rest), first.mode.suffix.toList]
    else (first :: rest).flatMap Component.words

def packWords : Option Nat → List (List Char)
  | some bits => [('P' :: 'A' :: 'C' :: 'K' :: Nat.toDigits 10 bits)]
  | none => []

def nameWords (type : ElementType) : List (List Char) :=
  componentWords type.components ++ packWords type.packBits?

theorem isAlphanum_digits (number : Nat) :
    ∀ letter ∈ Nat.toDigits 10 number, letter.isAlphanum = true := by
  intro letter member
  have digit := Nat.isDigit_of_mem_toDigits (by decide) (by decide) member
  rw [Char.isAlphanum, digit, Bool.or_true]

theorem isAlphanum_text (component : Component) :
    ∀ letter ∈ component.text.toList, letter.isAlphanum = true := by
  rw [Component.toList_text]
  refine List.forall_mem_cons.mpr ⟨?_, isAlphanum_digits component.bits⟩
  cases component.channel <;> decide

theorem isAlphanum_suffix (mode : Mode) :
    ∀ letter ∈ mode.suffix.toList, letter.isAlphanum = true := by
  refine List.all_eq_true.mp ?_
  cases mode <;> decide

theorem isAlphanum_letters (components : List Component) :
    ∀ letter ∈ Component.letters components, letter.isAlphanum = true := by
  intro letter member
  obtain ⟨component, -, held⟩ := List.mem_flatMap.mp member
  exact isAlphanum_text component letter held

theorem isAlphanum_packWords (packBits : Option Nat) :
    ∀ word ∈ packWords packBits, ∀ letter ∈ word, letter.isAlphanum = true := by
  cases packBits with
  | none => exact nofun
  | some bits =>
    rw [packWords, List.forall_mem_singleton]
    simp only [List.forall_mem_cons]
    exact ⟨by decide, by decide, by decide, by decide, isAlphanum_digits bits⟩

theorem isAlphanum_componentWords (components : List Component) :
    ∀ word ∈ componentWords components, ∀ letter ∈ word, letter.isAlphanum = true := by
  cases components with
  | nil => exact nofun
  | cons first rest =>
    rw [componentWords]
    split
    · simp only [List.forall_mem_cons]
      exact ⟨isAlphanum_letters _, isAlphanum_suffix _, nofun⟩
    · intro word member
      obtain ⟨component, -, held⟩ := List.mem_flatMap.mp member
      rcases List.mem_pair.mp held with rfl | rfl
      · exact isAlphanum_text component
      · exact isAlphanum_suffix component.mode

theorem splitAll_of_isAlphanum {word : List Char}
    (plain : ∀ letter ∈ word, letter.isAlphanum = true) : splitAll '_' word = [word] :=
  splitAll_of_not_mem fun member => absurd (plain '_' member) (by decide)

private theorem splitAll_pair (component : Component) :
    splitAll '_' (component.text ++ "_" ++ component.mode.suffix).toList = component.words := by
  have cut : (component.text ++ "_" ++ component.mode.suffix).toList =
      component.text.toList ++ '_' :: component.mode.suffix.toList := by simp
  rw [cut, splitAll_append, splitAll_of_isAlphanum (isAlphanum_text component),
    splitAll_of_isAlphanum (isAlphanum_suffix component.mode)]
  rfl

private theorem splitAll_intercalate {components : List Component} (listed : components ≠ []) :
    splitAll '_' ("_".intercalate (components.map fun component =>
      component.text ++ "_" ++ component.mode.suffix)).toList =
      components.flatMap Component.words := by
  induction components with
  | nil => exact absurd rfl listed
  | cons component rest ih =>
    cases rest with
    | nil => simpa using splitAll_pair component
    | cons next rest =>
      have cut : ∀ front back : String,
          (front ++ "_" ++ back).toList = front.toList ++ '_' :: back.toList := by simp
      have later := ih (List.cons_ne_nil next rest)
      rw [List.map_cons] at later
      rw [List.map_cons, List.map_cons, String.intercalate_cons_cons, cut, splitAll_append,
        splitAll_pair, later]
      rfl

private theorem splitAll_componentText (first : Component) (rest : List Component) :
    splitAll '_' (componentText (first :: rest) first).toList =
      componentWords (first :: rest) := by
  rw [componentText, componentWords]
  split
  · have cut : (String.join ((first :: rest).map Component.text) ++ "_" ++
        first.mode.suffix).toList =
        Component.letters (first :: rest) ++ '_' :: first.mode.suffix.toList := by
      simp [Component.letters, String.toList_join, List.flatMap_map]
    rw [cut, splitAll_append, splitAll_of_isAlphanum (isAlphanum_letters _),
      splitAll_of_isAlphanum (isAlphanum_suffix _)]
    rfl
  · exact splitAll_intercalate (List.cons_ne_nil first rest)

theorem splitAll_name? {type : ElementType} {name : String} (named : type.name? = some name) :
    type.isMatrix = false ∧ type.components ≠ [] ∧ splitAll '_' name.toList = type.nameWords := by
  unfold name? at named
  split at named
  · cases named
  rename_i flat
  split at named
  · cases named
  rename_i first rest listed
  refine ⟨Bool.eq_false_iff.mpr flat, listed ▸ List.cons_ne_nil first rest, ?_⟩
  rw [← Option.some.inj named, nameWords, listed, ← splitAll_componentText]
  cases type.packBits? with
  | none => simp [packWords]
  | some bits =>
    have plain := isAlphanum_packWords (some bits) _ (List.mem_singleton.mpr rfl)
    have cut : (componentText (first :: rest) first ++ ("_PACK" ++ toString bits)).toList =
        (componentText (first :: rest) first).toList ++
          '_' :: 'P' :: 'A' :: 'C' :: 'K' :: Nat.toDigits 10 bits := by
      simp [Nat.toList_repr]
    rw [cut, splitAll_append, splitAll_of_isAlphanum plain]
    rfl

private theorem packWords_inj {left right : Option Nat} (same : packWords left = packWords right) :
    left = right := by
  cases left with
  | none => cases right with
    | none => rfl
    | some bits => cases same
  | some bits => cases right with
    | none => cases same
    | some other =>
      have digits := (List.cons.inj same).1
      simp only [List.cons.injEq, true_and] at digits
      rw [toDigits_inj digits]

private theorem length_packWords (packBits : Option Nat) : (packWords packBits).length ≤ 1 := by
  cases packBits <;> simp [packWords]

private theorem length_componentWords (components : List Component) :
    2 ∣ (componentWords components).length := by
  cases components with
  | nil => exact Nat.dvd_zero 2
  | cons first rest =>
    rw [componentWords]
    split
    · exact Nat.dvd_refl 2
    · rw [Component.length_flatMap_words]
      exact Nat.dvd_mul_right 2 _

/-- Mixed modes take at least two components, which have more words than components of one mode. -/
theorem length_words_of_mixed {first : Component} {rest : List Component}
    (mixed : ¬(first :: rest).all (·.mode == first.mode) = true) :
    2 < ((first :: rest).flatMap Component.words).length := by
  rw [Component.length_flatMap_words]
  cases rest with
  | nil => simp at mixed
  | cons next rest =>
    simp only [List.length_cons]
    omega

private theorem componentWords_inj {left right : List Component}
    (same : componentWords left = componentWords right) : left = right := by
  have filled (first : Component) (rest : List Component) :
      componentWords (first :: rest) ≠ [] := by
    rw [componentWords]
    split <;> exact List.cons_ne_nil _ _
  cases left with
  | nil =>
    cases right with
    | nil => rfl
    | cons other more => exact absurd same.symm (filled other more)
  | cons first rest =>
    cases right with
    | nil => exact absurd same (filled first rest)
    | cons other more =>
      rw [componentWords, componentWords] at same
      split at same <;> split at same
      · rename_i alike also
        obtain ⟨letters, behind⟩ := List.cons.inj same
        have mode := Mode.suffix_inj (List.cons.inj behind).1
        have left : ∀ component ∈ first :: rest, component.mode = first.mode :=
          fun component member => beq_iff_eq.mp (List.all_eq_true.mp alike component member)
        have right : ∀ component ∈ other :: more, component.mode = first.mode := by
          rw [mode]
          exact fun component member => beq_iff_eq.mp (List.all_eq_true.mp also component member)
        exact Component.letters_inj letters left right
      · rename_i mixed
        have longer := length_words_of_mixed mixed
        rw [← same] at longer
        exact absurd longer (by simp)
      · rename_i mixed _
        have longer := length_words_of_mixed mixed
        rw [same] at longer
        exact absurd longer (by simp)
      · exact Component.flatMap_words_inj same

/-- Types of one name have the same components and the same pack width. -/
theorem name?_inj {left right : ElementType} {name : String} (named : left.name? = some name)
    (also : right.name? = some name) :
    left.components = right.components ∧ left.packBits? = right.packBits? := by
  obtain ⟨-, -, words⟩ := splitAll_name? named
  obtain ⟨-, -, others⟩ := splitAll_name? also
  have same : left.nameWords = right.nameWords := words.symm.trans others
  have lengths := congrArg List.length same
  unfold nameWords at same lengths
  rw [List.length_append, List.length_append] at lengths
  -- The words of the components are even in number, so the pack width is there for both or for none.
  have aligned : (packWords left.packBits?).length = (packWords right.packBits?).length := by
    have leftEven := length_componentWords left.components
    have rightEven := length_componentWords right.components
    have leftPack := length_packWords left.packBits?
    have rightPack := length_packWords right.packBits?
    omega
  obtain ⟨listed, packed⟩ := List.append_inj' same aligned
  exact ⟨componentWords_inj listed, packWords_inj packed⟩

private theorem second_nameWords {type : ElementType} (listed : type.components ≠ []) :
    ∃ mode : Mode, type.nameWords[1]? = some mode.suffix.toList := by
  unfold nameWords
  obtain ⟨first, rest, same⟩ := List.exists_cons_of_ne_nil listed
  rw [same, componentWords]
  split <;> exact ⟨first.mode, rfl⟩

/-- The one image format with a bar inside its components is the name of no type. -/
theorem name?_ne_barred (type : ElementType) : type.name? ≠ some "X8_D24_UNORM_PACK32" := by
  intro named
  obtain ⟨-, listed, words⟩ := splitAll_name? named
  obtain ⟨mode, second⟩ := second_nameWords listed
  have depth : (splitAll '_' "X8_D24_UNORM_PACK32".toList)[1]? = some "D24".toList := by decide
  rw [words, second] at depth
  cases mode <;> exact absurd depth (by decide)

end ElementType

namespace Format

private theorem name?_of_tag {type : ElementType} {tag : ImageFormat}
    (tagged : (ofType type).tag = some tag) : type.name? = some tag.name := by
  obtain ⟨name, named, found⟩ := Option.bind_eq_some_iff.mp tagged
  rw [named, ImageFormat.ofName?_eq_some_iff.mp found]

/-- A type that is tagged with an image format is no matrix, and the name of the image format spells
a type of the same components and the same pack width. -/
theorem tag_ofType_spells {type : ElementType} {tag : ImageFormat}
    (tagged : (ofType type).tag = some tag) :
    type.isMatrix = false ∧ ∃ spelled, ElementType.ofName? tag.name = some spelled ∧
      spelled.components = type.components ∧ spelled.packBits? = type.packBits? := by
  have own := name?_of_tag tagged
  have plain : tag.name ≠ "X8_D24_UNORM_PACK32" := by
    intro barred
    rw [barred] at own
    exact ElementType.name?_ne_barred type own
  have known : tag.name ∈ namedByType.val :=
    List.mem_filter.mpr ⟨tag.known, decide_eq_true plain⟩
  obtain ⟨spelled, read, named⟩ :=
    Option.bind_eq_some_iff.mp (namedByType.property tag.name known)
  exact ⟨(ElementType.splitAll_name? own).1, spelled, read, ElementType.name?_inj named own⟩

/-- A depth and a stencil with modes of their own have an image format. -/
theorem tag_ofType_spells_stencil :
    let type : ElementType :=
      .channels ⟨[⟨.depth, .unsignedNorm, 24⟩, ⟨.stencil, .unsignedInt, 8⟩], 0⟩
    (ofType type).tag = some ⟨"D24_UNORM_S8_UINT", by decide⟩ ∧ type.isMatrix = false ∧
      ∃ spelled, ElementType.ofName? "D24_UNORM_S8_UINT" = some spelled ∧
        spelled.components = type.components ∧ spelled.packBits? = type.packBits? := by
  intro type
  have tagged : (ofType type).tag = some ⟨"D24_UNORM_S8_UINT", by decide⟩ := by
    decide +revert +kernel
  exact ⟨tagged, tag_ofType_spells tagged⟩

end Format

end GpuScript
