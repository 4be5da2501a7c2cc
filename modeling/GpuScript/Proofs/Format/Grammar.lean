import GpuScript.Proofs.Format.Readers
import Mathlib.Tactic.FinCases
import Mathlib.Tactic.IntervalCases

/-! The grammar of vector and matrix names. What stands before `vec` and `mat` is read to the
letter, but a count of rows or columns is read as any number is, with a plus sign and zeros in front
of it. -/
namespace GpuScript

namespace DatumName

/-- A way to write down a count of rows or columns. -/
abbrev CountText : Type := List Char → Nat → Prop

/-- A count is one digit from two to four. -/
def Digit : CountText := fun text count => 2 ≤ count ∧ count ≤ 4 ∧ text = [count.digitChar]

/-- A count is such a digit behind a plus sign or none and any number of zeros. -/
def Padded : CountText := fun text count =>
  2 ≤ count ∧ count ≤ 4 ∧ ∃ sign zeros, (sign = [] ∨ sign = ['+']) ∧
    text = sign ++ List.replicate zeros '0' ++ [count.digitChar]

/-- What stands before `vec`, with the mode and the width that it gives: nothing, or a letter and a
width or none. -/
def vectorLeads : List (List Char × Mode × Nat) :=
  ([], .signedFloat, 32) ::
    [('i', Mode.signedInt, 32), ('u', .unsignedInt, 32), ('d', .signedFloat, 64)].flatMap
      fun (letter, mode, plain) => [([letter], mode, plain), ([letter, '8'], mode, 8),
        ([letter, '1', '6'], mode, 16), ([letter, '6', '4'], mode, 64)]

/-- What stands before `mat`, with the width that it gives. -/
def matrixLeads : List (List Char × Nat) := [([], 32), (['d'], 64)]

/-- What stands behind `vec`: nothing for four rows, or their count. -/
inductive VectorRows (counts : CountText) : (text : List Char) → (rows : Nat) → Prop
  | four : VectorRows counts [] 4
  | count {text : List Char} {rows : Nat} (counted : counts text rows) :
    VectorRows counts text rows

/-- What stands behind `mat`: nothing for four columns of four rows, the count of both, or one for
the columns and one for the rows with an `x` between them. -/
inductive MatrixShape (counts : CountText) : (text : List Char) → (columns rows : Nat) → Prop
  | four : MatrixShape counts [] 4 4
  | square {text : List Char} {count : Nat} (counted : counts text count) :
    MatrixShape counts text count count
  | sides {first second : List Char} {columns rows : Nat} (wide : counts first columns)
      (high : counts second rows) : MatrixShape counts (first ++ 'x' :: second) columns rows

/-- The vector or matrix that a name spells. -/
inductive Spells (counts : CountText) : (text : List Char) → (number : NumberType) → Prop
  | vector {before after : List Char} {mode : Mode} {bits rows : Nat}
      (lead : (before, mode, bits) ∈ vectorLeads) (counted : VectorRows counts after rows) :
    Spells counts (before ++ ['v', 'e', 'c'] ++ after) { mode, bits, rows }
  | matrix {before after : List Char} {bits columns rows : Nat}
      (lead : (before, bits) ∈ matrixLeads) (shape : MatrixShape counts after columns rows) :
    Spells counts (before ++ ['m', 'a', 't'] ++ after)
      { mode := .signedFloat, bits, rows, columns }

variable {text before after : List Char} {count : Nat}

theorem ofDigits_concat (text : List Char) (digit : Char) :
    Decimal.ofDigits (text ++ [digit]) =
      10 * Decimal.ofDigits text + (digit.toNat - '0'.toNat) := List.foldl_concat ..

private theorem toNat_digitChar (small : count < 10) : count.digitChar.toNat = '0'.toNat + count :=
  Nat.toNat_digitChar_of_lt_ten small

theorem ofDigits_eq_zero (digital : ∀ digit ∈ text, digit.isDigit = true)
    (zero : Decimal.ofDigits text = 0) : text = List.replicate text.length '0' := by
  induction text using List.reverseRecOn with
  | nil => rfl
  | append_singleton text digit ih =>
    obtain ⟨front, last⟩ := List.forall_mem_append.mp digital
    rw [ofDigits_concat] at zero
    have least := (Char.isDigit_iff_toNat.mp (last digit List.mem_cons_self)).1
    have same : digit = '0' := Char.toNat_inj.mp (by omega)
    rw [List.length_append, List.length_singleton, List.replicate_succ', ← ih front (by omega),
      same]

theorem ofDigits_eq_iff (digital : ∀ digit ∈ text, digit.isDigit = true) (some : 0 < count)
    (small : count < 10) :
    Decimal.ofDigits text = count ↔
      ∃ zeros, text = List.replicate zeros '0' ++ [count.digitChar] := by
  constructor
  · intro spelled
    rcases List.eq_nil_or_concat' text with rfl | ⟨front, digit, rfl⟩
    · exact absurd spelled (Nat.ne_of_lt some)
    · obtain ⟨leading, last⟩ := List.forall_mem_append.mp digital
      obtain ⟨least, -⟩ := Char.isDigit_iff_toNat.mp (last digit List.mem_cons_self)
      rw [ofDigits_concat] at spelled
      have zero : Decimal.ofDigits front = 0 := by omega
      have same : digit.toNat = count.digitChar.toNat := by
        rw [toNat_digitChar small]
        omega
      exact ⟨front.length, by rw [Char.toNat_inj.mp same, ← ofDigits_eq_zero leading zero]⟩
  · rintro ⟨zeros, rfl⟩
    have none : Decimal.ofDigits (List.replicate zeros '0') = 0 :=
      Nat.ofDigitChars_replicate_zero ..
    rw [ofDigits_concat, none, toNat_digitChar small]
    omega

theorem wordOfDigits?_eq_some_iff : wordOfDigits? text = some count ↔
    text ≠ [] ∧ (∀ digit ∈ text, digit.isDigit = true) ∧ count < wordLimit ∧
      Decimal.ofDigits text = count := by
  simp only [wordOfDigits?, Option.ite_none_right_eq_some, Bool.and_eq_true, Bool.not_eq_true',
    List.isEmpty_eq_false_iff, List.all_eq_true, decide_eq_true_eq, Option.some.injEq]
  constructor
  · rintro ⟨⟨⟨some, digital⟩, small⟩, rfl⟩
    exact ⟨some, digital, small, rfl⟩
  · rintro ⟨some, digital, small, rfl⟩
    exact ⟨⟨⟨some, digital⟩, small⟩, rfl⟩

/-- A number of one digit is read from that with zeros before it. -/
theorem wordOfDigits?_eq_iff (some : 0 < count) (small : count < 10) :
    wordOfDigits? text = .some count ↔
      ∃ zeros, text = List.replicate zeros '0' ++ [count.digitChar] := by
  rw [wordOfDigits?_eq_some_iff]
  constructor
  · rintro ⟨-, digital, -, spelled⟩
    exact (ofDigits_eq_iff digital some small).mp spelled
  · rintro ⟨zeros, rfl⟩
    have digital : ∀ digit ∈ List.replicate zeros '0' ++ [count.digitChar],
        digit.isDigit = true := by
      rw [List.forall_mem_append, List.forall_mem_singleton]
      refine ⟨fun digit member => ?_, Nat.isDigit_digitChar.trans (decide_eq_true small)⟩
      rw [List.eq_of_mem_replicate member]
      rfl
    exact ⟨by simp, digital, small.trans (by decide),
      (ofDigits_eq_iff digital some small).mpr ⟨zeros, rfl⟩⟩

private theorem wordOfText?_zeros (zeros count : Nat) :
    wordOfText? (List.replicate zeros '0' ++ [count.digitChar]) =
      wordOfDigits? (List.replicate zeros '0' ++ [count.digitChar]) := by
  unfold wordOfText?
  split
  · rename_i rest same
    have lead : '+' ∈ List.replicate zeros '0' ++ [count.digitChar] := same ▸ List.mem_cons_self
    rcases List.mem_append.mp lead with zero | digit
    · cases List.eq_of_mem_replicate zero
    · exact absurd (List.mem_singleton.mp digit).symm (Nat.digitChar_ne '+' rfl)
  · rfl

/-- A count of rows or columns is read where it is written with a plus sign or zeros as well. -/
theorem dimension?_eq_some_iff : dimension? text = some count ↔ Padded text count := by
  simp only [dimension?, Option.filter_eq_some_iff, Bool.and_eq_true, decide_eq_true_eq, Padded]
  constructor
  · rintro ⟨read, least, most⟩
    refine ⟨least, most, ?_⟩
    unfold wordOfText? at read
    split at read
    · obtain ⟨zeros, rfl⟩ := (wordOfDigits?_eq_iff (by omega) (by omega)).mp read
      exact ⟨['+'], zeros, .inr rfl, rfl⟩
    · obtain ⟨zeros, rfl⟩ := (wordOfDigits?_eq_iff (by omega) (by omega)).mp read
      exact ⟨[], zeros, .inl rfl, rfl⟩
  · rintro ⟨least, most, sign, zeros, signed, rfl⟩
    refine ⟨?_, least, most⟩
    have read : wordOfDigits? (List.replicate zeros '0' ++ [count.digitChar]) = some count :=
      (wordOfDigits?_eq_iff (by omega) (by omega)).mpr ⟨zeros, rfl⟩
    rcases signed with rfl | rfl
    · exact (wordOfText?_zeros zeros count).trans read
    · exact read

private def countLetters : List Char := ['+', '0', '2', '3', '4']

private theorem Padded.letters (counted : Padded text count) :
    ∀ letter ∈ text, letter ∈ countLetters := by
  obtain ⟨least, most, sign, zeros, signed, rfl⟩ := counted
  intro letter member
  rw [List.append_assoc] at member
  rcases List.mem_append.mp member with front | behind
  · rcases signed with rfl | rfl
    · cases front
    · rw [List.mem_singleton.mp front]
      decide
  · rcases List.mem_append.mp behind with zero | digit
    · rw [List.eq_of_mem_replicate zero]
      decide
    · rw [List.mem_singleton.mp digit]
      interval_cases count <;> decide

private theorem Padded.not_mem {letter : Char} (counted : Padded text count)
    (other : letter ∉ countLetters) : letter ∉ text :=
  fun member => other (counted.letters letter member)

theorem Padded.ne_nil (counted : Padded text count) : text ≠ [] := by
  obtain ⟨-, -, sign, zeros, -, rfl⟩ := counted
  simp

/-- A text without plus signs and zeros. -/
def Bare (text : List Char) : Prop := '+' ∉ text ∧ '0' ∉ text

theorem bare_append {first second : List Char} :
    Bare (first ++ second) ↔ Bare first ∧ Bare second := by
  simp only [Bare, List.mem_append, not_or]
  exact and_and_and_comm

theorem digit_iff : Digit text count ↔ Padded text count ∧ Bare text := by
  constructor
  · rintro ⟨least, most, rfl⟩
    refine ⟨⟨least, most, [], 0, .inl rfl, rfl⟩, ?_⟩
    interval_cases count <;> exact ⟨by decide, by decide⟩
  · rintro ⟨⟨least, most, sign, zeros, signed, rfl⟩, unsigned, short⟩
    have none : sign = [] := signed.resolve_right fun plus => unsigned (by simp [plus])
    have short : zeros = 0 := by
      by_contra some
      exact short (by simp [some])
    rw [none, short]
    exact ⟨least, most, rfl⟩

theorem vectorScalar?_eq_some_iff {mode : Mode} {bits : Nat} :
    vectorScalar? before = some (mode, bits) ↔ (before, mode, bits) ∈ vectorLeads := by
  constructor
  · intro found
    cases before with
    | nil =>
      cases found
      exact List.mem_cons_self
    | cons letter width =>
      obtain ⟨kind, wide⟩ := words_of_vectorScalar? found
      have measured := List.mem_map_of_mem (f := String.toList) wide
      rw [String.toList_ofList] at measured
      fin_cases kind <;> fin_cases measured <;> cases found <;> decide
  · intro lead
    have read : ∀ lead ∈ vectorLeads, vectorScalar? lead.1 = some lead.2 := by decide
    exact read _ lead

theorem vector?_eq_some_iff {number : NumberType} :
    vector? before after = some number ↔
      ∃ mode bits rows, number = { mode, bits, rows } ∧ (before, mode, bits) ∈ vectorLeads ∧
        VectorRows Padded after rows := by
  constructor
  · intro found
    obtain ⟨⟨mode, bits⟩, lead, found⟩ := Option.bind_eq_some_iff.mp found
    dsimp only at found
    have lead := vectorScalar?_eq_some_iff.mp lead
    split at found
    · rename_i none
      cases found
      rw [List.isEmpty_iff.mp none]
      exact ⟨mode, bits, 4, rfl, lead, .four⟩
    · obtain ⟨rows, counted, same⟩ := Option.bind_eq_some_iff.mp found
      cases same
      exact ⟨mode, bits, rows, rfl, lead, .count (dimension?_eq_some_iff.mp counted)⟩
  · rintro ⟨mode, bits, rows, rfl, lead, counted⟩
    refine Option.bind_eq_some_iff.mpr ⟨(mode, bits), vectorScalar?_eq_some_iff.mpr lead, ?_⟩
    cases counted with
    | four => rfl
    | count counted =>
      dsimp only
      rw [List.isEmpty_eq_false_iff.mpr counted.ne_nil]
      exact Option.bind_eq_some_iff.mpr ⟨rows, dimension?_eq_some_iff.mpr counted, rfl⟩

theorem shape?_eq_some_iff {columns rows : Nat} :
    shape? text = some (columns, rows) ↔ MatrixShape Padded text columns rows := by
  constructor
  · intro found
    unfold shape? at found
    split at found
    · rename_i first second cut
      obtain ⟨wide, counted, found⟩ := Option.bind_eq_some_iff.mp found
      obtain ⟨high, measured, same⟩ := Option.bind_eq_some_iff.mp found
      cases same
      rw [← splitFirst?_append cut, List.append_assoc]
      exact .sides (dimension?_eq_some_iff.mp counted) (dimension?_eq_some_iff.mp measured)
    · split at found
      · rename_i none
        cases found
        rw [List.isEmpty_iff.mp none]
        exact .four
      · obtain ⟨count, counted, same⟩ := Option.map_eq_some_iff.mp found
        cases same
        exact .square (dimension?_eq_some_iff.mp counted)
  · intro shape
    unfold shape?
    cases shape with
    | four => rfl
    | square counted =>
      have whole : splitFirst? ['x'] text = none := by
        rw [splitFirst?_eq_none_iff, List.singleton_infix_iff]
        exact counted.not_mem (by decide)
      rw [whole]
      dsimp only
      rw [List.isEmpty_eq_false_iff.mpr counted.ne_nil, dimension?_eq_some_iff.mpr counted]
      rfl
    | @sides first second _ _ wide high =>
      have cut : splitFirst? ['x'] (first ++ ['x'] ++ second) = some (first, second) :=
        splitFirst?_of_not_mem (wide.not_mem (by decide))
      rw [List.append_assoc, List.singleton_append] at cut
      rw [cut]
      dsimp only
      rw [dimension?_eq_some_iff.mpr wide, dimension?_eq_some_iff.mpr high]
      rfl

theorem matrix?_eq_some_iff {number : NumberType} :
    matrix? before after = some number ↔
      ∃ bits columns rows, number = { mode := .signedFloat, bits, rows, columns } ∧
        (before, bits) ∈ matrixLeads ∧ MatrixShape Padded after columns rows := by
  constructor
  · intro found
    unfold matrix? at found
    split at found
    case h_3 => cases found
    case h_1 | h_2 =>
      obtain ⟨bits, known, found⟩ := Option.bind_eq_some_iff.mp found
      obtain ⟨⟨columns, rows⟩, shaped, same⟩ := Option.bind_eq_some_iff.mp found
      cases known
      cases same
      exact ⟨_, columns, rows, rfl, by decide, shape?_eq_some_iff.mp shaped⟩
  · rintro ⟨bits, columns, rows, rfl, lead, shape⟩
    have shaped := shape?_eq_some_iff.mpr shape
    fin_cases lead <;> simp [matrix?, shaped]

private theorem MatrixShape.letters {columns rows : Nat}
    (shape : MatrixShape Padded text columns rows) :
    ∀ letter ∈ text, letter ∈ 'x' :: countLetters := by
  have more {part : List Char} {count : Nat} (counted : Padded part count) :
      ∀ letter ∈ part, letter ∈ 'x' :: countLetters := fun letter member =>
    List.mem_cons_of_mem _ (counted.letters letter member)
  cases shape with
  | four => exact nofun
  | square counted => exact more counted
  | sides wide high =>
    exact List.forall_mem_append.mpr
      ⟨more wide, List.forall_mem_cons.mpr ⟨List.mem_cons_self, more high⟩⟩

theorem VectorRows.digit_iff {rows : Nat} :
    VectorRows Digit text rows ↔ VectorRows Padded text rows ∧ Bare text := by
  constructor
  · intro counted
    cases counted with
    | four => exact ⟨.four, nofun, nofun⟩
    | count counted => exact (DatumName.digit_iff.mp counted).imp_left .count
  · rintro ⟨counted, plain⟩
    cases counted with
    | four => exact .four
    | count counted => exact .count (DatumName.digit_iff.mpr ⟨counted, plain⟩)

theorem MatrixShape.digit_iff {columns rows : Nat} :
    MatrixShape Digit text columns rows ↔ MatrixShape Padded text columns rows ∧ Bare text := by
  have between {first second : List Char} :
      Bare (first ++ 'x' :: second) ↔ Bare first ∧ Bare second := by
    rw [← List.singleton_append, bare_append, bare_append]
    exact and_congr_right fun _ => and_iff_right ⟨by decide, by decide⟩
  constructor
  · intro shape
    cases shape with
    | four => exact ⟨.four, nofun, nofun⟩
    | square counted => exact (DatumName.digit_iff.mp counted).imp_left .square
    | sides wide high =>
      obtain ⟨columns, plain⟩ := DatumName.digit_iff.mp wide
      obtain ⟨rows, short⟩ := DatumName.digit_iff.mp high
      exact ⟨.sides columns rows, between.mpr ⟨plain, short⟩⟩
  · rintro ⟨shape, plain⟩
    cases shape with
    | four => exact .four
    | square counted => exact .square (DatumName.digit_iff.mpr ⟨counted, plain⟩)
    | sides wide high =>
      obtain ⟨first, second⟩ := between.mp plain
      exact .sides (DatumName.digit_iff.mpr ⟨wide, first⟩) (DatumName.digit_iff.mpr ⟨high, second⟩)

/-- A name is spelled in single digits if it is without plus signs and zeros. -/
theorem spells_digit_iff {number : NumberType} :
    Spells Digit text number ↔ Spells Padded text number ∧ Bare text := by
  have vector : ∀ lead ∈ vectorLeads, Bare (lead.1 ++ ['v', 'e', 'c']) := by
    unfold Bare
    decide
  have matrix : ∀ lead ∈ matrixLeads, Bare (lead.1 ++ ['m', 'a', 't']) := by
    unfold Bare
    decide
  constructor
  · intro spells
    cases spells with
    | vector lead counted =>
      obtain ⟨padded, plain⟩ := VectorRows.digit_iff.mp counted
      exact ⟨.vector lead padded, bare_append.mpr ⟨vector _ lead, plain⟩⟩
    | matrix lead shape =>
      obtain ⟨padded, plain⟩ := MatrixShape.digit_iff.mp shape
      exact ⟨.matrix lead padded, bare_append.mpr ⟨matrix _ lead, plain⟩⟩
  · rintro ⟨spells, plain⟩
    cases spells with
    | vector lead counted =>
      exact .vector lead (VectorRows.digit_iff.mpr ⟨counted, (bare_append.mp plain).2⟩)
    | matrix lead shape =>
      exact .matrix lead (MatrixShape.digit_iff.mpr ⟨shape, (bare_append.mp plain).2⟩)

end DatumName

namespace ElementType

open DatumName

theorem scalar?_of_infix {name : String}
    (kind : ['v', 'e', 'c'] <:+: name.toList ∨ ['m', 'a', 't'] <:+: name.toList) :
    scalar? name = none := by
  have letter : 'v' ∈ name.toList ∨ 'm' ∈ name.toList :=
    kind.imp (·.subset List.mem_cons_self) (·.subset List.mem_cons_self)
  refine Option.eq_none_iff_forall_ne_some.mpr fun scalar found => ?_
  unfold scalar? at found
  split at found <;> first | exact absurd letter (by decide) | cases found

private theorem ofDatum?_of_spells {name : String} {number : NumberType}
    (spells : Spells Padded name.toList number) : ofDatum? name = some (.number number) := by
  generalize same : name.toList = text at spells
  cases spells with
  | @vector before after mode bits rows lead counted =>
    have plain : ∀ lead ∈ vectorLeads, 'v' ∉ lead.1 := by decide
    have unnamed : scalar? name = none :=
      scalar?_of_infix (.inl ⟨before, after, same.symm⟩)
    have read : vector? before after = some { mode, bits, rows } :=
      vector?_eq_some_iff.mpr ⟨mode, bits, rows, rfl, lead, counted⟩
    rw [ofDatum?, unnamed, same, splitFirst?_of_not_mem (plain _ lead)]
    dsimp only
    rw [read]
    rfl
  | @matrix before after bits columns rows lead shape =>
    have plain : ∀ lead ∈ matrixLeads, 'v' ∉ lead.1 ∧ 'm' ∉ lead.1 := by decide
    obtain ⟨vector, square⟩ := plain _ lead
    have behind : 'v' ∉ after := fun member => absurd (shape.letters _ member) (by decide)
    have free : ¬['v', 'e', 'c'] <:+: before ++ ['m', 'a', 't'] ++ after := fun within => by
      have member := within.subset List.mem_cons_self
      simp [vector, behind] at member
    have unnamed : scalar? name = none :=
      scalar?_of_infix (.inr ⟨before, after, same.symm⟩)
    have read : matrix? before after = some { mode := .signedFloat, bits, rows, columns } :=
      matrix?_eq_some_iff.mpr ⟨bits, columns, rows, rfl, lead, shape⟩
    rw [ofDatum?, unnamed, same, splitFirst?_eq_none_iff.mpr free, splitFirst?_of_not_mem square]
    dsimp only
    rw [read]
    rfl

private theorem spells_of_ofDatum? {name : String} {type : ElementType}
    (kind : ['v', 'e', 'c'] <:+: name.toList ∨ ['m', 'a', 't'] <:+: name.toList)
    (read : ofDatum? name = some type) :
    ∃ number, type = .number number ∧ Spells Padded name.toList number := by
  rw [ofDatum?, scalar?_of_infix kind] at read
  dsimp only at read
  split at read
  · rename_i before after cut
    obtain ⟨number, found, rfl⟩ := Option.map_eq_some_iff.mp read
    obtain ⟨mode, bits, rows, rfl, lead, counted⟩ := vector?_eq_some_iff.mp found
    rw [← splitFirst?_append cut]
    exact ⟨_, rfl, .vector lead counted⟩
  · rename_i free
    have square := kind.resolve_left (splitFirst?_eq_none_iff.mp free)
    split at read
    · rename_i before after cut
      obtain ⟨number, found, rfl⟩ := Option.map_eq_some_iff.mp read
      obtain ⟨bits, columns, rows, rfl, lead, shape⟩ := matrix?_eq_some_iff.mp found
      rw [← splitFirst?_append cut]
      exact ⟨_, rfl, .matrix lead shape⟩
    · rename_i absent
      exact absurd square (splitFirst?_eq_none_iff.mp absent)

/-- A name with `vec` or `mat` in it is read if it spells a vector or a matrix with counts that may
have a plus sign and zeros before them, and as what it spells. Names in single digits are those
without plus signs and zeros. -/
theorem ofDatum_ok_iff_spells (name : String)
    (kind : ['v', 'e', 'c'] <:+: name.toList ∨ ['m', 'a', 't'] <:+: name.toList) :
    (∀ type, ofDatum name = .ok type ↔
      ∃ number, type = .number number ∧ Spells Padded name.toList number) ∧
    ((∀ number, ¬Spells Padded name.toList number) →
      ofDatum name = .error (.codec (.unknownType name))) ∧
    ∀ number, Spells Digit name.toList number ↔
      Spells Padded name.toList number ∧ '+' ∉ name.toList ∧ '0' ∉ name.toList := by
  refine ⟨fun type => ⟨fun read => ?_, ?_⟩, fun none => ?_, fun number => spells_digit_iff⟩
  · unfold ofDatum at read
    split at read
    · rename_i found
      cases read
      exact spells_of_ofDatum? kind found
    · cases read
  · rintro ⟨number, rfl, spells⟩
    rw [ofDatum, ofDatum?_of_spells spells]
  · cases found : ofDatum? name with
    | none => rw [ofDatum, found]
    | some type =>
      obtain ⟨number, -, spells⟩ := spells_of_ofDatum? kind found
      exact absurd spells (none number)

/-- A matrix whose columns have a plus sign and whose rows have zeros is read. -/
theorem ofDatum_ok_dmat :
    ['m', 'a', 't'] <:+: "dmat+2x003".toList ∧
      ofDatum "dmat+2x003" =
        .ok (.number { mode := .signedFloat, bits := 64, rows := 3, columns := 2 }) := by
  have kind : ['m', 'a', 't'] <:+: "dmat+2x003".toList := by decide
  refine ⟨kind, ((ofDatum_ok_iff_spells "dmat+2x003" (.inr kind)).1 _).mpr ⟨_, rfl, ?_⟩⟩
  have wide : Padded ['+', '2'] 2 := ⟨by decide, by decide, ['+'], 0, .inr rfl, rfl⟩
  have high : Padded ['0', '0', '3'] 3 := ⟨by decide, by decide, [], 2, .inl rfl, rfl⟩
  exact Spells.matrix (show (['d'], 64) ∈ matrixLeads by decide) (.sides wide high)

/-- Not every name with `vec` in it that is read as a data type alone is in single digits. -/
theorem ofDatum_ok_vector_zero :
    ¬∀ (name : String) (type : ElementType),
      (['v', 'e', 'c'] <:+: name.toList ∨ ['m', 'a', 't'] <:+: name.toList) →
      ofDatum name = .ok type → ofName? name = none →
      ∃ number, type = .number number ∧ Spells Digit name.toList number := by
  intro always
  obtain ⟨number, -, spells⟩ := always "vec02"
    (.number { mode := .signedFloat, bits := 32, rows := 2 })
    (.inl (by decide)) (by decide +kernel) (by decide +kernel)
  exact absurd (spells_digit_iff.mp spells).2.2 (by decide)

end ElementType

end GpuScript
