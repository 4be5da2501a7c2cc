import GpuScript.Proofs.Section.Reading
import GpuScript.Proofs.Section.Recordings

namespace GpuScript

/-- An integer literal is `0x` and hexadecimal digits, or decimal digits behind a minus or none. -/
inductive IsLiteral : List Char → Prop
  | hexadecimal {digits : List Char} (some : digits ≠ [])
      (digital : ∀ digit ∈ digits, Cursor.isHexDigit digit = true) :
    IsLiteral ('0' :: 'x' :: digits)
  | negative {digits : List Char} (some : digits ≠ [])
      (digital : ∀ digit ∈ digits, digit.isDigit = true) : IsLiteral ('-' :: digits)
  | decimal {digits : List Char} (some : digits ≠ [])
      (digital : ∀ digit ∈ digits, digit.isDigit = true) : IsLiteral digits

namespace Literal

/-- The number that hexadecimal digits spell. -/
def ofHexDigits (digits : List Char) : Nat :=
  digits.foldl (fun value digit => 16 * value + Cursor.hexValue digit) 0

def value : List Char → Int
  | '0' :: 'x' :: digits => ofHexDigits digits
  | '-' :: digits => -(Decimal.ofDigits digits : Int)
  | digits => Decimal.ofDigits digits

/-- The number nearest to one among those whose magnitude has 64 bits. -/
def clamp (number : Int) : Int := max (-(2 ^ 64 - 1)) (min number (2 ^ 64 - 1))

theorem value_of_decimal {digits : List Char}
    (digital : ∀ digit ∈ digits, digit.isDigit = true) :
    value digits = Decimal.ofDigits digits := by
  unfold value
  split
  · rename_i rest
    exact absurd (digital 'x' (by simp)) (by decide)
  · rename_i rest
    exact absurd (digital '-' (by simp)) (by decide)
  · rfl

end Literal

def Token.literal? : Token → Option (List Char)
  | .integer _ _ text => some text.toList
  | _ => none

/-- An integer token has the bits of its literal: in two's complement the number that is nearest to
the one spelled. -/
def Token.Faithful (token : Token) : Prop :=
  ∀ literal ∈ token.literal?, IsLiteral literal ∧
    (token.bits.toNat : Int) = Literal.clamp (Literal.value literal) % 2 ^ 64

theorem Token.faithful_of_none {token : Token} (none : token.literal? = none) :
    token.Faithful := by
  intro literal member
  rw [none] at member
  cases member

namespace Cursor

theorem toNat_saturate (number : Nat) :
    ((saturate number).toNat : Int) = Literal.clamp number % 2 ^ 64 := by
  rw [saturate, UInt64.toNat_ofNat', Literal.clamp]
  omega

private theorem toNat_zero_sub_saturate (number : Nat) :
    ((0 - saturate number).toNat : Int) = Literal.clamp (-number) % 2 ^ 64 := by
  rw [UInt64.toNat_sub, saturate, UInt64.toNat_ofNat', Literal.clamp]
  simp only [UInt64.toNat_zero]
  omega

/-- A hexadecimal literal that is read off the front of a word. -/
theorem readHex?_literal {word : List Char} {reading : WordReading} {literal : List Char}
    (found : readHex? word = some reading) (spelled : reading.1.literal? = some literal) :
    reading.1.Faithful ∧ word.takeWhile Char.isDigit = literal.takeWhile Char.isDigit := by
  unfold readHex? at found
  split at found
  · rename_i text
    dsimp only at found
    split at found
    · cases found
    · rename_i some
      cases found
      cases spelled
      simp only [List.isEmpty_iff] at some
      refine ⟨?_, ?_⟩
      · intro literal member
        cases member
        rw [String.toList_ofList]
        refine ⟨.hexadecimal some fun digit => List.mem_takeWhile_imp, ?_⟩
        exact toNat_saturate _
      · rw [String.toList_ofList]
        rfl
  · cases found

/-- The digits after a point at the front of a text. -/
def fractionCount : List Char → Nat
  | '.' :: text => digitCount text
  | _ => 0

theorem fractionCount_of_head {text : List Char} (plain : text.head? ≠ some '.') :
    fractionCount text = 0 := by
  unfold fractionCount
  split
  · exact absurd rfl plain
  · rfl

/-- The number at the front of a word with as many signs in front of its digits. -/
def spanBehind (sign : Nat) (word : List Char) : NumberSpan :=
  let whole := digitCount (word.drop sign)
  let afterWhole := word.drop (sign + whole)
  if whole + fractionCount afterWhole = 0 then ⟨0, false⟩
  else
    let pointLength := if afterWhole.head? = some '.' then 1 + fractionCount afterWhole else 0
    let mantissa := sign + whole + pointLength
    let exponent := exponentLength (word.drop mantissa)
    ⟨mantissa + exponent, 0 < pointLength || 0 < exponent⟩

theorem numberSpan_minus (rest : List Char) :
    numberSpan ('-' :: rest) = spanBehind 1 ('-' :: rest) := rfl

theorem numberSpan_plain {first : Char} (rest : List Char) (minus : first ≠ '-')
    (plus : first ≠ '+') : numberSpan (first :: rest) = spanBehind 0 (first :: rest) := by
  unfold numberSpan
  split
  · rename_i same
    exact absurd (List.cons.inj same).1 minus
  · rename_i same
    exact absurd (List.cons.inj same).1 plus
  · rfl

/-- An integer at the front of a word is its digits behind the signs. -/
theorem spanBehind_integer {sign : Nat} {word : List Char}
    (filled : (spanBehind sign word).length ≠ 0) (whole : (spanBehind sign word).isDouble = false) :
    (spanBehind sign word).length = sign + digitCount (word.drop sign) ∧
      digitCount (word.drop sign) ≠ 0 := by
  unfold spanBehind at filled whole ⊢
  dsimp only at filled whole ⊢
  split at filled
  · exact absurd rfl filled
  · rename_i counted
    rw [if_neg counted] at whole ⊢
    simp only [Bool.or_eq_false_iff, decide_eq_false_iff_not, not_lt, Nat.le_zero] at whole
    obtain ⟨noPoint, noExponent⟩ := whole
    refine ⟨by dsimp only; rw [noExponent, noPoint]; omega, fun none => counted ?_⟩
    split at noPoint
    · omega
    · rename_i plain
      rw [fractionCount_of_head plain, none]

private theorem take_digitCount (text : List Char) :
    text.take (digitCount text) = text.takeWhile Char.isDigit :=
  (List.prefix_iff_eq_take.mp (List.takeWhile_prefix _)).symm

theorem takeWhile_ne_nil {text : List Char} (counted : digitCount text ≠ 0) :
    text.takeWhile Char.isDigit ≠ [] := by
  intro none
  rw [digitCount, none] at counted
  exact counted rfl

/-- An integer at the front of a word is its digits, behind a minus or none. -/
theorem take_numberSpan {word : List Char} (starts : startsNumber word = true)
    (filled : (numberSpan word).length ≠ 0) (whole : (numberSpan word).isDouble = false) :
    (∃ rest, word = '-' :: rest ∧ rest.takeWhile Char.isDigit ≠ [] ∧
        word.take (numberSpan word).length = '-' :: rest.takeWhile Char.isDigit) ∨
      word.takeWhile Char.isDigit ≠ [] ∧
        word.take (numberSpan word).length = word.takeWhile Char.isDigit := by
  cases word with
  | nil => cases starts
  | cons first rest =>
    by_cases minus : first = '-'
    · subst minus
      rw [numberSpan_minus] at filled whole ⊢
      obtain ⟨length, counted⟩ := spanBehind_integer filled whole
      refine .inl ⟨rest, rfl, takeWhile_ne_nil counted, ?_⟩
      rw [length, Nat.add_comm]
      exact congrArg ('-' :: ·) (take_digitCount rest)
    · have plus : first ≠ '+' := by
        rintro rfl
        cases rest <;> cases starts
      rw [numberSpan_plain rest minus plus] at filled whole ⊢
      obtain ⟨length, counted⟩ := spanBehind_integer filled whole
      refine .inr ⟨takeWhile_ne_nil counted, ?_⟩
      rw [length, Nat.zero_add]
      exact take_digitCount (first :: rest)

theorem faithful_minus {digits : List Char} (some : digits ≠ [])
    (digital : ∀ digit ∈ digits, digit.isDigit = true) :
    (integerToken ('-' :: digits)).Faithful := by
  intro literal member
  cases member
  rw [String.toList_ofList]
  exact ⟨.negative some digital, toNat_zero_sub_saturate _⟩

theorem integerToken_decimal {digits : List Char}
    (digital : ∀ digit ∈ digits, digit.isDigit = true) :
    integerToken digits =
      .integer (saturate (Decimal.ofDigits digits)) false (String.ofList digits) := by
  unfold integerToken
  split
  · exact absurd (digital '-' List.mem_cons_self) (by decide)
  · rfl

private theorem faithful_decimal {digits : List Char} (some : digits ≠ [])
    (digital : ∀ digit ∈ digits, digit.isDigit = true) : (integerToken digits).Faithful := by
  rw [integerToken_decimal digital]
  intro literal member
  cases member
  rw [String.toList_ofList, Literal.value_of_decimal digital]
  exact ⟨.decimal some digital, toNat_saturate _⟩

theorem literal?_integerToken (literal : List Char) :
    (integerToken literal).literal? = some literal := by
  unfold integerToken
  split <;> exact congrArg some String.toList_ofList

/-- A decimal literal that is read off the front of a word. What stands behind its digits decides
only whether it is an integer. -/
theorem readNumber?_literal {word : List Char} {reading : WordReading} {literal : List Char}
    (found : readNumber? word = some reading) (spelled : reading.1.literal? = some literal) :
    reading.1.Faithful ∧ word.takeWhile Char.isDigit = literal.takeWhile Char.isDigit := by
  unfold readNumber? at found
  dsimp only at found
  split at found
  · cases found
  · rename_i spans
    simp only [Bool.or_eq_true, Bool.not_eq_true', decide_eq_true_eq, not_or,
      Bool.not_eq_false] at spans
    cases found
    dsimp only at spelled ⊢
    cases whole : (numberSpan word).isDouble with
    | true =>
      -- The token is a double, which has no literal.
      rw [if_pos whole] at spelled
      cases spelled
    | false =>
      rw [if_neg (by simp [whole])] at spelled ⊢
      rw [literal?_integerToken, Option.some.injEq] at spelled
      have digital (text : List Char) :
          ∀ digit ∈ text.takeWhile Char.isDigit, digit.isDigit = true :=
        fun digit => List.mem_takeWhile_imp
      rcases take_numberSpan spans.1 spans.2 whole with
        ⟨rest, rfl, some, taken⟩ | ⟨some, taken⟩
      · rw [taken] at spelled ⊢
        subst spelled
        exact ⟨faithful_minus some (digital rest), rfl⟩
      · rw [taken] at spelled ⊢
        subst spelled
        exact ⟨faithful_decimal some (digital word),
          (List.takeWhile_eq_self_iff.mpr (digital word)).symm⟩

/-- The token at the front of a word has the bits of its literal, which begins with the same decimal
digits as the word. -/
theorem readWord_literal {word : List Char} {literal : List Char}
    (spelled : (readWord word).1.literal? = some literal) :
    (readWord word).1.Faithful ∧
      word.takeWhile Char.isDigit = literal.takeWhile Char.isDigit := by
  unfold readWord at spelled ⊢
  split at spelled
  · cases spelled
  · rename_i other
    rw [if_neg other]
    cases hex : readHex? word with
    | some reading =>
      rw [hex] at spelled
      exact readHex?_literal hex spelled
    | none =>
      rw [hex] at spelled
      cases number : readNumber? word with
      | some reading =>
        rw [number] at spelled
        exact readNumber?_literal number spelled
      | none =>
        rw [number] at spelled
        cases spelled

private theorem faithful_readWord (word : List Char) : (readWord word).1.Faithful := by
  cases spelled : (readWord word).1.literal? with
  | none => exact Token.faithful_of_none spelled
  | some literal => exact (readWord_literal spelled).1

private theorem faithful_next (cursor : Cursor) : cursor.next.1.Faithful := by
  unfold next
  fun_cases take cursor.start.line cursor.start.rest with
  | case7 => exact faithful_readWord _
  | _ => exact Token.faithful_of_none rfl

theorem forall_lexemes {holds : Token → Prop} (next : ∀ cursor : Cursor, holds cursor.next.1)
    (cursor : Cursor) : ∀ lexeme ∈ cursor.lexemes, holds lexeme.token := by
  induction cursor using token_induction with
  | stop cursor ended =>
    rw [lexemes_end ended]
    intro lexeme member
    rw [List.mem_singleton.mp member]
    exact ended ▸ next cursor
  | more cursor more ih =>
    rw [lexemes_more more]
    intro lexeme member
    rcases List.mem_cons.mp member with rfl | member
    · exact next cursor
    · exact ih lexeme member

end Cursor

namespace Statement

private theorem mem_of_others {lexemes : List Cursor.Lexeme} {statement : Statement}
    (member : statement ∈ ofLexemes lexemes) : ∀ lexeme ∈ statement.others, lexeme ∈ lexemes := by
  induction lexemes using lexemes_induction with
  | nil =>
    rw [ofLexemes] at member
    cases member
  | blank first rest ended ih =>
    rw [ofLexemes_end ended] at member
    exact fun lexeme other => List.mem_cons_of_mem _ (ih member lexeme other)
  | closed first others closing later solid inside ended ih =>
    rw [ofLexemes_closed solid inside ended] at member
    intro lexeme other
    rcases List.mem_cons.mp member with rfl | member
    · exact List.mem_cons_of_mem _ (List.mem_append_left _ other)
    · exact List.mem_cons_of_mem _ (List.mem_append_right _
        (List.mem_cons_of_mem _ (ih member lexeme other)))
  | unclosed first others solid inside =>
    rw [ofLexemes_unclosed solid inside, List.mem_singleton] at member
    subst statement
    exact fun lexeme other => List.mem_cons_of_mem _ other

theorem forall_tokens {holds : Token → Prop} (next : ∀ cursor : Cursor, holds cursor.next.1)
    {text : String} {line : Nat} {statement : Statement} (member : statement ∈ ofText text line) :
    ∀ token ∈ (Session.wordsOf statement).tokens, holds token := by
  intro token found
  obtain ⟨lexeme, other, rfl⟩ := List.mem_map.mp found
  exact Cursor.forall_lexemes next _ lexeme (mem_of_others member lexeme other)

theorem faithful_of_mem {text : String} {line : Nat} {statement : Statement}
    (member : statement ∈ ofText text line) :
    ∀ token ∈ (Session.wordsOf statement).tokens, token.Faithful :=
  forall_tokens Cursor.faithful_next member

end Statement

end GpuScript
