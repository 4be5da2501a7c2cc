import GpuScript.Proofs.Number.Signs
import GpuScript.Proofs.Section.Literals
import GpuScript.Proofs.Section.Respacing

namespace GpuScript

namespace Token

variable {token : Token} {literal : List Char}

/-- The bits of a faithful token in two's complement. -/
theorem signed_eq (faithful : token.Faithful) (spelled : token.literal? = some literal) :
    token.signed = (Literal.clamp (Literal.value literal)).bmod (2 ^ 64) := by
  have bits := (faithful literal spelled).2
  have bound := token.bits.toNat_lt
  rw [signed, signedWord, Int.bmod_def]
  split <;> split <;> omega

/-- Exactly the literals in the signed range are read as what they spell. -/
theorem signed_eq_value_iff (faithful : token.Faithful) (spelled : token.literal? = some literal) :
    token.signed = Literal.value literal ↔
      -2 ^ 63 ≤ Literal.value literal ∧ Literal.value literal < 2 ^ 63 := by
  rw [signed_eq faithful spelled, Literal.clamp, Int.bmod_def]
  split <;> omega

/-- A literal outside of the signed range is read with the other sign. -/
theorem signed_neg_iff (faithful : token.Faithful) (spelled : token.literal? = some literal)
    (outside : Literal.value literal < -2 ^ 63 ∨ 2 ^ 63 ≤ Literal.value literal) :
    token.signed < 0 ↔ ¬Literal.value literal < 0 := by
  rw [signed_eq faithful spelled, Literal.clamp, Int.bmod_def]
  split <;> omega

private theorem asDouble_of_isNegative (isInteger : token.isInteger = true)
    (isNegative : token.isNegative = true) :
    token.asDouble = .ok (.double (.ofInt token.signed) true token.spelling) := by
  cases token with
  | integer bits negative text =>
    cases isNegative
    rfl
  | _ => cases isInteger

/-- An integer token is negative exactly if its literal begins with a minus. -/
def ShowsSign (token : Token) : Prop :=
  ∀ literal ∈ token.literal?, token.isNegative = (literal.head? == some '-')

theorem showsSign_of_none (none : token.literal? = none) : token.ShowsSign := by
  intro literal member
  rw [none] at member
  cases member

theorem toNat_bits_lt_iff (faithful : token.Faithful) (spelled : token.literal? = some literal)
    (plain : literal.head? ≠ some '-') :
    token.bits.toNat < 2 ^ 63 ↔ Literal.value literal < 2 ^ 63 := by
  obtain ⟨isLiteral, bits⟩ := faithful literal spelled
  have positive : 0 ≤ Literal.value literal := by
    cases isLiteral with
    | hexadecimal => exact Int.natCast_nonneg _
    | negative => exact absurd rfl plain
    | decimal some digital =>
      rw [Literal.value_of_decimal digital]
      exact Int.natCast_nonneg _
  rw [Literal.clamp] at bits
  omega

end Token

namespace Cursor

variable {digits rest : List Char}

theorem showsSign_integerToken (literal : List Char) : (integerToken literal).ShowsSign := by
  intro other spelled
  obtain rfl := Option.some.inj ((literal?_integerToken literal).symm.trans spelled)
  unfold integerToken
  split
  · rfl
  · rename_i plain
    cases literal with
    | nil => rfl
    | cons letter rest =>
      have other : letter ≠ '-' := by
        rintro rfl
        exact plain rest rfl
      simp [Token.isNegative, other]

private theorem showsSign_readHex? {word : List Char} {reading : WordReading}
    (found : readHex? word = some reading) : reading.1.ShowsSign := by
  unfold readHex? at found
  split at found
  · dsimp only at found
    split at found
    · cases found
    · cases found
      intro literal spelled
      obtain rfl := Option.some.inj spelled
      rw [String.toList_ofList]
      rfl
  · cases found

private theorem showsSign_readNumber? {word : List Char} {reading : WordReading}
    (found : readNumber? word = some reading) : reading.1.ShowsSign := by
  unfold readNumber? at found
  dsimp only at found
  split at found
  · cases found
  · cases found
    split
    · exact Token.showsSign_of_none rfl
    · exact showsSign_integerToken _

private theorem showsSign_readWord (word : List Char) : (readWord word).1.ShowsSign := by
  unfold readWord
  split
  · exact Token.showsSign_of_none rfl
  · cases hex : readHex? word with
    | some reading => exact showsSign_readHex? hex
    | none =>
      cases number : readNumber? word with
      | some reading => exact showsSign_readNumber? number
      | none => exact Token.showsSign_of_none rfl

theorem showsSign_next (cursor : Cursor) : cursor.next.1.ShowsSign := by
  unfold next
  fun_cases take cursor.start.line cursor.start.rest with
  | case7 => exact showsSign_readWord _
  | _ => exact Token.showsSign_of_none rfl

/-- A digit is no blank, ends no word, and begins neither a comment, a joined line, a quoted text nor
a token of one letter; and it is no sign. -/
theorem solid_of_isDigit {letter : Char} (digit : letter.isDigit = true) :
    isBlank letter = false ∧ endsWord letter = false ∧
      letter ∉ ['#', '\\', '\n', '"', '(', ')', ','] ∧ letter ≠ '-' ∧ letter ≠ '+' := by
  have other (mark : Char) (plain : mark.isDigit = false) : letter ≠ mark := by
    rintro rfl
    rw [digit] at plain
    cases plain
  refine ⟨?_, ?_, ?_, other '-' rfl, other '+' rfl⟩
  · simp [isBlank, other]
  · simp [endsWord, other]
  · simp [other]

/-- Behind its signs a word of digits is a number of its whole length, and an integer. -/
theorem spanBehind_digits {sign : Nat} {word : List Char} (some : word.drop sign ≠ [])
    (digital : ∀ digit ∈ word.drop sign, digit.isDigit = true) :
    spanBehind sign word = ⟨word.length, false⟩ := by
  have filled : 0 < (word.drop sign).length := List.length_pos_iff.mpr some
  have counted : digitCount (word.drop sign) = (word.drop sign).length := by
    rw [digitCount, List.takeWhile_eq_self_iff.mpr digital]
  rw [List.length_drop] at filled counted
  have whole : sign + (word.length - sign) = word.length := by omega
  rw [spanBehind_eq]
  simp only [counted, whole, List.drop_length]
  rw [if_neg (by omega)]
  simp [pointLength, exponentLength]

theorem readWord_integer {word : List Char} (plain : word.map Char.toLower ≠ ['n', 'a', 'n'])
    (decimal : readHex? word = none) (starts : startsNumber word = true)
    (span : numberSpan word = ⟨word.length, false⟩) :
    readWord word = (integerToken word, []) := by
  have filled : word.length ≠ 0 := by
    rintro none
    rw [List.length_eq_zero_iff.mp none] at starts
    cases starts
  have number : readNumber? word = some (integerToken word, []) := by
    simp [readNumber?, span, starts, filled]
  rw [readWord, if_neg plain, decimal, number]
  rfl

theorem readWord_digits (some : digits ≠ []) (digital : ∀ digit ∈ digits, digit.isDigit = true) :
    readWord digits = (integerToken digits, []) := by
  obtain ⟨first, others, rfl⟩ := List.exists_cons_of_ne_nil some
  have lead := digital first List.mem_cons_self
  obtain ⟨-, -, -, minus, plus⟩ := solid_of_isDigit lead
  have span : numberSpan (first :: others) = ⟨(first :: others).length, false⟩ := by
    rw [numberSpan_plain others minus plus]
    exact spanBehind_digits some digital
  refine readWord_integer (fun nan => ?_) (readHex?_plain fun hex => ?_) ?_ span
  · rw [List.map_cons, toLower_of_isDigit lead] at nan
    obtain ⟨rfl, -⟩ := List.cons.inj nan
    cases lead
  · cases others with
    | nil => cases hex
    | cons second others =>
      obtain ⟨-, rfl⟩ : first = '0' ∧ second = 'x' := by simpa using hex
      exact absurd (digital 'x' (by simp)) (by decide)
  · cases others <;> simp [startsNumber, lead]

theorem readWord_minus (some : digits ≠ []) (digital : ∀ digit ∈ digits, digit.isDigit = true) :
    readWord ('-' :: digits) = (integerToken ('-' :: digits), []) := by
  have span : numberSpan ('-' :: digits) = ⟨('-' :: digits).length, false⟩ := by
    rw [numberSpan_minus]
    exact spanBehind_digits some digital
  refine readWord_integer (fun nan => ?_) rfl ?_ span
  · exact absurd (List.cons.inj nan).1 (by decide)
  · obtain ⟨first, others, rfl⟩ := List.exists_cons_of_ne_nil some
    simp [startsNumber, digital]

/-- A text that is empty or begins with a letter that a word ends before. -/
def Delimited (rest : List Char) : Prop := ∀ letter ∈ rest.head?, endsWord letter = true

theorem readFront_word {word : List Char} (inside : ∀ letter ∈ word, endsWord letter = false)
    (delimited : Delimited rest) :
    readFront (word ++ rest) = ((readWord word).1, (readWord word).2 ++ rest) := by
  have kept : ∀ letter ∈ word, (!endsWord letter) = true := by simpa using inside
  have taken : (word ++ rest).takeWhile (!endsWord ·) = word := by
    rw [List.takeWhile_append_of_pos kept]
    cases rest with
    | nil => simp
    | cons letter rest => simp [delimited letter rfl]
  have left : (word ++ rest).dropWhile (!endsWord ·) = rest := by
    rw [List.dropWhile_append_of_pos kept]
    cases rest with
    | nil => rfl
    | cons letter rest => simp [delimited letter rfl]
  rw [readFront, taken, left]

/-- A word in front of a cursor is the next token, or begins with it. -/
theorem next_word {head : Char} {tail : List Char} (line : Nat) (blank : isBlank head = false)
    (plain : head ∉ ['#', '\\', '\n', '"', '(', ')', ','])
    (inside : ∀ letter ∈ head :: tail, endsWord letter = false) (delimited : Delimited rest) :
    (Cursor.mk (head :: tail ++ rest) line).next =
      ((readWord (head :: tail)).1, ⟨(readWord (head :: tail)).2 ++ rest, line⟩) := by
  simp only [List.mem_cons, List.not_mem_nil, or_false, not_or] at plain
  obtain ⟨comment, join, feed, quote, opening, closing, comma⟩ := plain
  rw [next, List.cons_append, start_solid line blank comment join]
  dsimp only
  rw [take_word line feed quote opening closing comma, ← List.cons_append,
    readFront_word inside delimited]

private theorem next_digits (some : digits ≠ []) (digital : ∀ digit ∈ digits, digit.isDigit = true)
    (delimited : Delimited rest) (line : Nat) :
    (Cursor.mk (digits ++ rest) line).next = (integerToken digits, ⟨rest, line⟩) := by
  have read := readWord_digits some digital
  have inside : ∀ letter ∈ digits, endsWord letter = false :=
    fun letter member => (solid_of_isDigit (digital letter member)).2.1
  obtain ⟨first, others, rfl⟩ := List.exists_cons_of_ne_nil some
  obtain ⟨blank, -, plain, -⟩ := solid_of_isDigit (digital first List.mem_cons_self)
  rw [next_word line blank plain inside delimited, read]
  rfl

theorem next_minus (some : digits ≠ []) (digital : ∀ digit ∈ digits, digit.isDigit = true)
    (delimited : Delimited rest) (line : Nat) :
    (Cursor.mk ('-' :: digits ++ rest) line).next =
      (integerToken ('-' :: digits), ⟨rest, line⟩) := by
  have inside : ∀ letter ∈ '-' :: digits, endsWord letter = false := by
    rintro letter (_ | ⟨_, member⟩)
    · rfl
    · exact (solid_of_isDigit (digital letter member)).2.1
  rw [next_word line (by decide) (by decide) inside delimited, readWord_minus some digital]
  rfl

/-- A row of digits before the end of a word is an integer token, of the number that they spell or
of the largest one of 64 bits. Behind a minus it is a negative token, which is read as the negated
number up to the end of the signed range, and past that as a number above zero; the double that it
is turned into is then above zero too. -/
theorem next_decimal (some : digits ≠ []) (digital : ∀ digit ∈ digits, digit.isDigit = true)
    (delimited : Delimited rest) (line : Nat) :
    let value := Decimal.ofDigits digits
    let plain := (Cursor.mk (digits ++ rest) line).next
    let minus := (Cursor.mk ('-' :: digits ++ rest) line).next
    (plain.2 = ⟨rest, line⟩ ∧ plain.1.isInteger = true ∧ plain.1.isNegative = false ∧
        plain.1.bits.toNat = if value < 2 ^ 64 then value else 2 ^ 64 - 1) ∧
      (minus.2 = ⟨rest, line⟩ ∧ minus.1.isInteger = true ∧ minus.1.isNegative = true ∧
        minus.1.signed = if value ≤ 2 ^ 63 then -(value : Int) else max 1 (2 ^ 64 - value)) ∧
      (minus.1.signed ≤ 0 ↔ value ≤ 2 ^ 63) ∧
      ∃ double, minus.1.asDouble = .ok (.double double true (String.ofList ('-' :: digits))) ∧
        (double.decode.IsPositive ↔ 2 ^ 63 < value) := by
  intro value plain minus
  have plainRead : plain = (integerToken digits, ⟨rest, line⟩) :=
    next_digits some digital delimited line
  have minusRead : minus = (integerToken ('-' :: digits), ⟨rest, line⟩) :=
    next_minus some digital delimited line
  rw [plainRead, minusRead, integerToken_decimal digital]
  let token := integerToken ('-' :: digits)
  have isInteger : token.isInteger = true := rfl
  have isNegative : token.isNegative = true := rfl
  have bits : (saturate value).toNat = if value < 2 ^ 64 then value else 2 ^ 64 - 1 := by
    rw [saturate, UInt64.toNat_ofNat']
    split <;> omega
  have signed : token.signed = if value ≤ 2 ^ 63 then -(value : Int) else max 1 (2 ^ 64 - value) := by
    rw [Token.signed_eq (faithful_minus some digital) (literal?_integerToken _)]
    change (Literal.clamp (-(value : Int))).bmod (2 ^ 64) = _
    rw [Literal.clamp, Int.bmod_def]
    split <;> split <;> omega
  have sign : token.signed ≤ 0 ↔ value ≤ 2 ^ 63 := by
    rw [signed]
    split <;> omega
  refine ⟨⟨rfl, rfl, rfl, bits⟩, ⟨rfl, isInteger, isNegative, signed⟩, sign, .ofInt token.signed,
    Token.asDouble_of_isNegative isInteger isNegative, ?_⟩
  rw [Double.isPositive_ofInt_iff]
  omega

/-- The least number of the signed range is read as what it is. -/
theorem next_decimal_least :
    let digits := "9223372036854775808".toList
    digits ≠ [] ∧ (∀ digit ∈ digits, digit.isDigit = true) ∧ Delimited [' ', '7'] ∧
      (Cursor.mk ('-' :: digits ++ [' ', '7']) 1).next.1.signed = -2 ^ 63 := by
  intro digits
  have some : digits ≠ [] := by decide
  have digital : ∀ digit ∈ digits, digit.isDigit = true := List.all_eq_true.mp rfl
  have delimited : Delimited [' ', '7'] := by
    rintro letter ⟨⟩
    rfl
  have value : Decimal.ofDigits digits = 2 ^ 63 := by decide +kernel
  obtain ⟨-, ⟨-, -, -, signed⟩, -⟩ := next_decimal some digital delimited 1
  refine ⟨some, digital, delimited, ?_⟩
  rw [signed, value]
  rfl

/-- The number before the least one comes out as the largest of the range, and stays above zero as a
double. -/
theorem next_decimal_wrapped :
    let token := (ofText "-9223372036854775809" 1).next.1
    token.isNegative = true ∧ token.signed = 2 ^ 63 - 1 ∧
      ∃ double, token.asDouble = .ok double ∧ double.toDouble.decode.IsPositive := by
  intro token
  have read : token = .integer 9223372036854775807 true "-9223372036854775809" := by
    decide +kernel
  rw [read]
  refine ⟨rfl, by decide, _, rfl, ?_⟩
  exact (Double.isPositive_ofInt_iff _).mpr (by decide)

end Cursor

end GpuScript
