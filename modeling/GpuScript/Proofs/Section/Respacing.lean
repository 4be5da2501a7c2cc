import GpuScript.Proofs.Section.Literals
import GpuScript.Proofs.Section.Sources
import Mathlib.Data.List.Forall2

/-! Spaces in place of other blanks. A tab, a NUL and a form feed are skipped before a token the way
a space is, but do not end a word. Putting spaces in their places keeps all tokens exactly where none
of them stands in the source of a token. -/
namespace GpuScript

namespace Cursor

/-- A blank that words do not end before. -/
def isLooseBlank (letter : Char) : Bool := letter == '\t' || letter == '\x00' || letter == '\x0c'

theorem isLooseBlank_iff {letter : Char} :
    isLooseBlank letter = true ↔ letter = '\t' ∨ letter = '\x00' ∨ letter = '\x0c' := by
  simp [isLooseBlank, or_assoc]

/-- Loose blanks are what is skipped before a token but is part of a word. -/
theorem isLooseBlank_eq (letter : Char) :
    isLooseBlank letter = (isBlank letter && !endsWord letter) := by
  rw [Bool.eq_iff_iff, isLooseBlank_iff]
  constructor
  · rintro (rfl | rfl | rfl) <;> decide
  · intro both
    simp only [isBlank, endsWord, Bool.and_eq_true, Bool.or_eq_true, beq_iff_eq,
      Bool.not_eq_true', Bool.or_eq_false_iff, beq_eq_false_iff_ne] at both
    tauto

/-- A letter that may stand in the place of another. -/
def Replaces (letter other : Char) : Prop :=
  other = letter ∨ isLooseBlank letter = true ∧ other = ' '

instance (letter other : Char) : Decidable (Replaces letter other) :=
  inferInstanceAs (Decidable (_ ∨ _ ∧ _))

/-- A text and one with spaces in the places of some of its tabs, NULs and form feeds. -/
def Respaced : (text other : List Char) → Prop := List.Forall₂ Replaces

instance (text other : List Char) : Decidable (Respaced text other) :=
  inferInstanceAs (Decidable (List.Forall₂ Replaces text other))

theorem Replaces.eq_of_solid {letter other : Char} (replaces : Replaces letter other)
    (solid : isLooseBlank letter = false) : other = letter := by
  rcases replaces with same | ⟨loose, -⟩
  · exact same
  · rw [solid] at loose
    cases loose

private theorem isLooseBlank_of_solid {letter : Char} (solid : isBlank letter = false) :
    isLooseBlank letter = false := by
  rw [isLooseBlank_eq, solid, Bool.false_and]

theorem Respaced.cons_solid {letter : Char} {text other : List Char}
    (respaced : Respaced (letter :: text) other) (solid : isLooseBlank letter = false) :
    ∃ rest, other = letter :: rest ∧ Respaced text rest := by
  obtain ⟨first, rest, replaces, later, rfl⟩ := List.forall₂_cons_left_iff.mp respaced
  obtain rfl := replaces.eq_of_solid solid
  exact ⟨rest, rfl, later⟩

/-- What is no space at the front of a respaced text has stayed there. -/
theorem Respaced.cons_of_respaced {letter : Char} {text other : List Char}
    (respaced : Respaced text (letter :: other)) (solid : letter ≠ ' ') :
    ∃ rest, text = letter :: rest ∧ Respaced rest other := by
  obtain ⟨first, rest, replaces, later, rfl⟩ := List.forall₂_cons_right_iff.mp respaced
  rcases replaces with rfl | ⟨-, space⟩
  · exact ⟨rest, rfl, later⟩
  · exact absurd space solid

theorem Respaced.dropWhile {keep : Char → Bool}
    (agrees : ∀ letter, isLooseBlank letter = true → keep letter = keep ' ')
    {text other : List Char} (respaced : Respaced text other) :
    Respaced (text.dropWhile keep) (other.dropWhile keep) := by
  induction respaced with
  | nil => exact .nil
  | @cons letter first text other replaces later ih =>
    have same : keep first = keep letter := by
      rcases replaces with rfl | ⟨loose, rfl⟩
      · rfl
      · exact (agrees letter loose).symm
    rw [List.dropWhile_cons, List.dropWhile_cons, same]
    split
    · exact ih
    · exact .cons replaces later

theorem Respaced.skipBlanks {text other : List Char} (respaced : Respaced text other) :
    Respaced (skipBlanks text) (Cursor.skipBlanks other) := by
  apply respaced.dropWhile
  intro letter loose
  rw [isLooseBlank_eq, Bool.and_eq_true] at loose
  exact loose.1

theorem Respaced.dropLine {text other : List Char} (respaced : Respaced text other) :
    Respaced (text.dropWhile (· ≠ '\n')) (other.dropWhile (· ≠ '\n')) := by
  apply respaced.dropWhile
  intro letter loose
  rcases isLooseBlank_iff.mp loose with rfl | rfl | rfl <;> decide

/-- Cursors on one line in front of a text and of one with spaces for some of its blanks. -/
private structure Twins (cursor twin : Cursor) : Prop where
  line : twin.line = cursor.line
  rest : Respaced cursor.rest twin.rest

private theorem Twins.start {cursor twin : Cursor} (twins : Twins cursor twin) :
    Twins cursor.start twin.start := by
  obtain ⟨other, line⟩ := twin
  obtain ⟨rfl, respaced⟩ := twins
  dsimp only at respaced
  have skipped := respaced.skipBlanks
  fun_induction Cursor.start cursor generalizing other with
  | case1 cursor text blank ih =>
    rw [blank] at skipped
    obtain ⟨rest, same, later⟩ := skipped.cons_solid rfl
    rw [start_comment _ same]
    exact ih _ later.dropLine later.dropLine.skipBlanks
  | case2 cursor text blank ih =>
    rw [blank] at skipped
    obtain ⟨_, same, behind⟩ := skipped.cons_solid rfl
    obtain ⟨rest, rfl, later⟩ := behind.cons_solid rfl
    rw [start_join _ same]
    exact ih _ later later.skipBlanks
  | case3 cursor text blank ih =>
    rw [blank] at skipped
    obtain ⟨_, same, behind⟩ := skipped.cons_solid rfl
    obtain ⟨_, rfl, breaks⟩ := behind.cons_solid rfl
    obtain ⟨rest, rfl, later⟩ := breaks.cons_solid rfl
    rw [start_joinReturn _ same]
    exact ih _ later later.skipBlanks
  | case4 cursor comment join joinReturn =>
    rw [start_token cursor.line]
    · exact ⟨rfl, skipped⟩
    · intro text same
      rw [same] at skipped
      obtain ⟨rest, same, -⟩ := skipped.cons_of_respaced (by decide)
      exact comment rest same
    · intro text same
      rw [same] at skipped
      obtain ⟨_, same, behind⟩ := skipped.cons_of_respaced (by decide)
      obtain ⟨rest, rfl, -⟩ := behind.cons_of_respaced (by decide)
      exact join rest same
    · intro text same
      rw [same] at skipped
      obtain ⟨_, same, behind⟩ := skipped.cons_of_respaced (by decide)
      obtain ⟨_, rfl, breaks⟩ := behind.cons_of_respaced (by decide)
      obtain ⟨rest, rfl, -⟩ := breaks.cons_of_respaced (by decide)
      exact joinReturn rest same

theorem solid_of_loose {letter : Char} (loose : isLooseBlank letter = true) :
    letter.isDigit = false ∧ isHexDigit letter = false ∧ letter ∉ ['-', '+', '.', 'e', 'E', '0', 'x'] := by
  rcases isLooseBlank_iff.mp loose with rfl | rfl | rfl <;> decide

private def signCount : List Char → Nat
  | '-' :: _ | '+' :: _ => 1
  | _ => 0

private theorem numberSpan_eq (word : List Char) : numberSpan word = spanBehind
    (signCount word) word := rfl

private theorem exponentLength_cons (mark : Char) (text : List Char) :
    exponentLength (mark :: text) =
      if mark = 'e' ∨ mark = 'E' then
        if 0 < digitCount (text.drop (signCount text)) then
          1 + signCount text + digitCount (text.drop (signCount text))
        else 0
      else 0 := rfl

private theorem signCount_le (text : List Char) : signCount text ≤ text.length := by
  unfold signCount
  split <;> simp

theorem digitCount_le (text : List Char) : digitCount text ≤ text.length :=
  (List.takeWhile_sublist _).length_le

theorem digitCount_drop_le {sign : Nat} {text : List Char} (room : sign ≤ text.length) :
    sign + digitCount (text.drop sign) ≤ text.length := by
  have digits := digitCount_le (text.drop sign)
  rw [List.length_drop] at digits
  omega

private theorem exponentLength_le (text : List Char) : exponentLength text ≤ text.length := by
  cases text with
  | nil => exact Nat.zero_le _
  | cons mark text =>
    have digits := digitCount_drop_le (signCount_le text)
    rw [exponentLength_cons, List.length_cons]
    split
    · split <;> omega
    · exact Nat.zero_le _

/-- A point with its digits, or zero. -/
def pointLength (text : List Char) : Nat :=
  if text.head? = some '.' then 1 + fractionCount text else 0

private theorem pointLength_le (text : List Char) : pointLength text ≤ text.length := by
  unfold pointLength
  split
  · rename_i point
    obtain ⟨rest, rfl⟩ := List.head?_eq_some_iff.mp point
    have digits := digitCount_le rest
    simp only [fractionCount, List.length_cons]
    omega
  · exact Nat.zero_le _

theorem spanBehind_eq (sign : Nat) (word : List Char) :
    spanBehind sign word =
      let whole := sign + digitCount (word.drop sign)
      let mantissa := whole + pointLength (word.drop whole)
      if digitCount (word.drop sign) + fractionCount (word.drop whole) = 0 then ⟨0, false⟩
      else
        ⟨mantissa + exponentLength (word.drop mantissa),
          0 < pointLength (word.drop whole) || 0 < exponentLength (word.drop mantissa)⟩ := rfl

theorem mantissa_le {sign : Nat} {word : List Char} (room : sign ≤ word.length) :
    let whole := sign + digitCount (word.drop sign)
    whole + pointLength (word.drop whole) ≤ word.length := by
  intro whole
  have digits : whole ≤ word.length := digitCount_drop_le room
  have point := pointLength_le (word.drop whole)
  rw [List.length_drop] at point
  omega

theorem length_numberSpan_le (word : List Char) : (numberSpan word).length ≤ word.length := by
  have mantissa := mantissa_le (signCount_le word)
  rw [numberSpan_eq, spanBehind_eq]
  dsimp only at mantissa ⊢
  split
  · exact Nat.zero_le _
  · have exponent := exponentLength_le (word.drop (signCount word +
      digitCount (word.drop (signCount word)) +
      pointLength (word.drop (signCount word + digitCount (word.drop (signCount word))))))
    rw [List.length_drop] at exponent
    dsimp only
    omega

/-- What a letter stops is the same with that letter behind it. -/
theorem takeWhile_stop {keep : Char → Bool} {letter : Char} (stops : keep letter = false)
    (front behind : List Char) :
    (front ++ letter :: behind).takeWhile keep = front.takeWhile keep := by
  induction front with
  | nil => simp [stops]
  | cons first front ih => simp [List.takeWhile_cons, ih]

private theorem dropWhile_stop {keep : Char → Bool} {letter : Char} (stops : keep letter = false)
    (front behind : List Char) :
    (front ++ letter :: behind).dropWhile keep = front.dropWhile keep ++ letter :: behind := by
  induction front with
  | nil => simp [stops]
  | cons first front ih =>
    rw [List.cons_append, List.dropWhile_cons, List.dropWhile_cons, ih]
    split <;> rfl

private theorem readHex?_mark (text : List Char) :
    readHex? ('0' :: 'x' :: text) =
      if (text.takeWhile isHexDigit).isEmpty then none
      else
        some (.integer (saturate ((text.takeWhile isHexDigit).foldl
            (fun value digit => 16 * value + hexValue digit) 0)) false
            (String.ofList ('0' :: 'x' :: text.takeWhile isHexDigit)),
          text.dropWhile isHexDigit) := rfl

theorem readHex?_plain {word : List Char} (plain : word.take 2 ≠ ['0', 'x']) :
    readHex? word = none := by
  unfold readHex?
  split
  · exact absurd rfl plain
  · rfl

theorem toLower_of_isDigit {letter : Char} (digit : letter.isDigit = true) :
    letter.toLower = letter := by
  simp only [Char.isDigit, Bool.and_eq_true, decide_eq_true_eq] at digit
  unfold Char.toLower
  split
  · rename_i upper
    have above := UInt32.le_trans upper.1 digit.2
    exact absurd above (by decide)
  · rfl

private theorem readNumbers_nan {word : List Char} (nan : word.map Char.toLower = ['n', 'a', 'n']) :
    readHex? word = none ∧ readNumber? word = none := by
  obtain ⟨first, later, rfl, lower, tail⟩ := List.map_eq_cons_iff.mp nan
  obtain ⟨second, rest, rfl, next, -⟩ := List.map_eq_cons_iff.mp tail
  have letters : first.isDigit = false ∧ second.isDigit = false := by
    constructor <;> apply Bool.eq_false_iff.mpr <;> intro digit
    · rw [toLower_of_isDigit digit] at lower
      subst lower
      cases digit
    · rw [toLower_of_isDigit digit] at next
      subst next
      cases digit
  constructor
  · apply readHex?_plain
    rintro ⟨rfl⟩
    cases lower
  · simp [readNumber?, startsNumber, letters]

section Loose

variable {letter : Char} (loose : isLooseBlank letter = true) (behind : List Char)

include loose

theorem digitCount_loose (front : List Char) :
    digitCount (front ++ letter :: behind) = digitCount front := by
  rw [digitCount, takeWhile_stop (solid_of_loose loose).1, digitCount]

private theorem signCount_loose (front : List Char) :
    signCount (front ++ letter :: behind) = signCount front := by
  cases front with
  | nil => rcases isLooseBlank_iff.mp loose with rfl | rfl | rfl <;> rfl
  | cons first front =>
    unfold signCount
    split <;> simp_all

theorem fractionCount_loose (front : List Char) :
    fractionCount (front ++ letter :: behind) = fractionCount front := by
  cases front with
  | nil => rcases isLooseBlank_iff.mp loose with rfl | rfl | rfl <;> rfl
  | cons first front =>
    by_cases point : first = '.'
    · subst point
      exact digitCount_loose loose behind front
    · rw [fractionCount_of_head (by simpa using point), fractionCount_of_head (by simpa using point)]

private theorem pointLength_loose (front : List Char) :
    pointLength (front ++ letter :: behind) = pointLength front := by
  have head : (front ++ letter :: behind).head? = some '.' ↔ front.head? = some '.' := by
    cases front with
    | nil => rcases isLooseBlank_iff.mp loose with rfl | rfl | rfl <;> simp
    | cons first front => rfl
  simp only [pointLength, head, fractionCount_loose loose]

/-- A place in a word is one in the word with a loose blank behind. -/
theorem digitCount_drop_loose {front : List Char} {sign : Nat} (room : sign ≤ front.length) :
    digitCount ((front ++ letter :: behind).drop sign) = digitCount (front.drop sign) := by
  rw [List.drop_append_of_le_length room, digitCount_loose loose]

private theorem exponentLength_loose (front : List Char) :
    exponentLength (front ++ letter :: behind) = exponentLength front := by
  cases front with
  | nil => rcases isLooseBlank_iff.mp loose with rfl | rfl | rfl <;> rfl
  | cons mark front =>
    rw [List.cons_append, exponentLength_cons, exponentLength_cons, signCount_loose loose,
      digitCount_drop_loose loose behind (signCount_le front)]

/-- The number at the front of a word ends before a loose blank. -/
theorem numberSpan_loose (front : List Char) :
    numberSpan (front ++ letter :: behind) = numberSpan front := by
  have room := signCount_le front
  rw [numberSpan_eq, numberSpan_eq, signCount_loose loose, spanBehind_eq, spanBehind_eq,
    digitCount_drop_loose loose behind room]
  dsimp only
  rw [List.drop_append_of_le_length (digitCount_drop_le room), fractionCount_loose loose,
    pointLength_loose loose, List.drop_append_of_le_length (mantissa_le room),
    exponentLength_loose loose]

private theorem startsNumber_loose (front : List Char) :
    startsNumber (front ++ letter :: behind) = startsNumber front := by
  have ends := (solid_of_loose loose).1
  match front with
  | [] =>
    rcases isLooseBlank_iff.mp loose with rfl | rfl | rfl <;> cases behind <;> rfl
  | [first] => simp [startsNumber, ends]
  | first :: second :: front => rfl

private theorem readNumber?_loose (front : List Char) :
    readNumber? (front ++ letter :: behind) =
      (readNumber? front).map fun reading => (reading.1, reading.2 ++ letter :: behind) := by
  have room := length_numberSpan_le front
  unfold readNumber?
  rw [numberSpan_loose loose, startsNumber_loose loose]
  dsimp only
  rw [List.take_append_of_le_length room, List.drop_append_of_le_length room]
  split <;> rfl

private theorem hexMark_loose (front : List Char) :
    (front ++ letter :: behind).take 2 = ['0', 'x'] ↔ front.take 2 = ['0', 'x'] := by
  have other := (solid_of_loose loose).2.2
  match front with
  | [] => simp_all
  | [first] => simp_all
  | first :: second :: front => rfl

private theorem readHex?_loose (front : List Char) :
    readHex? (front ++ letter :: behind) =
      (readHex? front).map fun reading => (reading.1, reading.2 ++ letter :: behind) := by
  have ends := (solid_of_loose loose).2.1
  by_cases mark : front.take 2 = ['0', 'x']
  · obtain ⟨text, rfl⟩ : ∃ text, front = '0' :: 'x' :: text :=
      ⟨front.drop 2, by rw [← List.take_append_drop 2 front, mark]; rfl⟩
    rw [List.cons_append, List.cons_append, readHex?_mark, readHex?_mark, takeWhile_stop ends,
      dropWhile_stop ends]
    split <;> rfl
  · rw [readHex?_plain mark, readHex?_plain (mt (hexMark_loose loose behind front).mp mark)]
    rfl

/-- A word with a loose blank in it is read up to what is left of it before the blank, or is one
word. -/
theorem readWord_loose (front : List Char) :
    readWord (front ++ letter :: behind) =
        ((readWord front).1, (readWord front).2 ++ letter :: behind) ∨
      readWord (front ++ letter :: behind) =
        (.word (String.ofList (front ++ letter :: behind)), []) := by
  have lower : letter.toLower ∉ ['n', 'a', 'n'] := by
    rcases isLooseBlank_iff.mp loose with rfl | rfl | rfl <;> decide
  have noNan : (front ++ letter :: behind).map Char.toLower ≠ ['n', 'a', 'n'] := by
    intro same
    apply lower
    rw [← same]
    exact List.mem_map_of_mem (List.mem_append_right front List.mem_cons_self)
  rw [readWord, if_neg noNan, readHex?_loose loose, readNumber?_loose loose]
  by_cases nan : front.map Char.toLower = ['n', 'a', 'n']
  · obtain ⟨hex, number⟩ := readNumbers_nan nan
    right
    rw [hex, number]
    rfl
  · rw [readWord, if_neg nan]
    cases hex : readHex? front with
    | some reading => exact .inl rfl
    | none =>
      cases number : readNumber? front with
      | some reading => exact .inl rfl
      | none => exact .inr rfl

end Loose

/-- Two words at the front of texts are the same, or the other one ends where the first loose blank
was replaced. -/
theorem Respaced.word {text other : List Char} (respaced : Respaced text other) :
    (other.takeWhile (!endsWord ·) = text.takeWhile (!endsWord ·) ∧
        Respaced (text.dropWhile (!endsWord ·)) (other.dropWhile (!endsWord ·))) ∨
      ∃ letter behind, isLooseBlank letter = true ∧
        text.takeWhile (!endsWord ·) = other.takeWhile (!endsWord ·) ++ letter :: behind ∧
        (other.dropWhile (!endsWord ·)).head? = some ' ' ∧
        Respaced (letter :: (behind ++ text.dropWhile (!endsWord ·)))
          (other.dropWhile (!endsWord ·)) := by
  induction respaced with
  | nil => exact .inl ⟨rfl, .nil⟩
  | @cons letter first text other replaces later ih =>
    rcases replaces with rfl | ⟨loose, rfl⟩
    · cases ends : endsWord first with
      | true =>
        simp only [List.takeWhile_cons, List.dropWhile_cons, ends]
        exact .inl ⟨rfl, .cons (.inl rfl) later⟩
      | false =>
        simp only [List.takeWhile_cons, List.dropWhile_cons, ends]
        rcases ih with ⟨same, rest⟩ | ⟨letter, behind, loose, parted, space, rest⟩
        · exact .inl ⟨congrArg (first :: ·) same, rest⟩
        · exact .inr ⟨letter, behind, loose, congrArg (first :: ·) parted, space, rest⟩
    · have inside : endsWord letter = false := by
        rw [isLooseBlank_eq, Bool.and_eq_true, Bool.not_eq_true'] at loose
        exact loose.2
      right
      refine ⟨letter, text.takeWhile (!endsWord ·), loose, ?_, rfl, ?_⟩
      · rw [List.takeWhile_cons_of_pos (by simp [inside]),
          List.takeWhile_cons_of_neg (by decide)]
        rfl
      · rw [List.dropWhile_cons_of_pos (by simp [inside]),
          List.dropWhile_cons_of_neg (by decide), List.takeWhile_append_dropWhile]
        exact .cons (.inr ⟨loose, rfl⟩) later

private theorem spelling_take {text : List Char} (plain : text.head? ≠ some '"') (line : Nat) :
    (take line text).1.spelling.toList ++ (take line text).2.rest = text := by
  fun_cases take line text with
  | case1 | case2 | case4 | case5 | case6 => simp [Token.spelling]
  | case3 => exact absurd rfl plain
  | case7 text => exact spelling_readFront text

theorem Respaced.append {front before text other : List Char} (fronts : Respaced front before)
    (respaced : Respaced text other) : Respaced (front ++ text) (before ++ other) :=
  List.rel_append fronts respaced

private theorem respaced_refl (text : List Char) : Respaced text text :=
  List.forall₂_same.mpr fun _ _ => .inl rfl

/-- A word whose spelling is kept is the same, with the same behind it. -/
theorem Respaced.readFront {text other : List Char} (respaced : Respaced text other)
    (kept : (readFront text).1.spelling.toList <+: other) :
    (Cursor.readFront other).1 = (Cursor.readFront text).1 ∧
      Respaced (Cursor.readFront text).2 (Cursor.readFront other).2 := by
  unfold Cursor.readFront at kept ⊢
  dsimp only at kept ⊢
  rcases respaced.word with ⟨same, rest⟩ | ⟨letter, behind, loose, parted, space, rest⟩
  · rw [same]
    exact ⟨rfl, (respaced_refl _).append rest⟩
  · rw [parted] at kept ⊢
    rcases readWord_loose loose behind (other.takeWhile (!endsWord ·)) with read | read
    · rw [read]
      refine ⟨rfl, ?_⟩
      rw [List.append_assoc]
      exact (respaced_refl _).append rest
    · -- the word goes on over the blank that is a space in the other text
      rw [read] at kept
      obtain ⟨rest, same⟩ := kept
      obtain ⟨tail, behindWord⟩ := List.head?_eq_some_iff.mp space
      have whole := List.takeWhile_append_dropWhile (p := (!endsWord ·)) (l := other)
      rw [behindWord] at whole
      have both := same.trans whole.symm
      simp only [Token.spelling, String.toList_ofList, List.append_assoc, List.cons_append,
        List.append_cancel_left_eq, List.cons.injEq] at both
      rw [both.1] at loose
      cases loose

/-- A token whose spelling is kept is the same, and twins stand behind it. -/
private theorem Respaced.take {text other : List Char} (respaced : Respaced text other)
    (solid : ∀ head tail, text = head :: tail → isBlank head = false) (noQuote : '"' ∉ text)
    (line : Nat) (kept : (take line text).1.spelling.toList <+: other) :
    (Cursor.take line other).1 = (Cursor.take line text).1 ∧
      Twins (Cursor.take line text).2 (Cursor.take line other).2 := by
  cases text with
  | nil =>
    cases respaced
    exact ⟨rfl, rfl, .nil⟩
  | cons head tail =>
    obtain ⟨rest, rfl, later⟩ := respaced.cons_solid (isLooseBlank_of_solid (solid _ _ rfl))
    by_cases special : head = '\n' ∨ head = '(' ∨ head = ')' ∨ head = ','
    · rcases special with rfl | rfl | rfl | rfl <;> exact ⟨rfl, rfl, later⟩
    · simp only [not_or] at special
      obtain ⟨feed, opening, closing, comma⟩ := special
      have quote : head ≠ '"' := fun same => noQuote (same ▸ List.mem_cons_self)
      rw [take_word line feed quote opening closing comma] at kept ⊢
      rw [take_word line feed quote opening closing comma]
      obtain ⟨same, behind⟩ := respaced.readFront kept
      exact ⟨same, rfl, behind⟩

theorem source_eq_spelling {cursor : Cursor} (noQuote : '"' ∉ cursor.rest) :
    cursor.source = cursor.next.1.spelling.toList := by
  have inside : cursor.start.rest.head? ≠ some '"' := fun quote =>
    noQuote ((start_suffix cursor).subset (List.mem_of_head? quote))
  have whole := spelling_take inside cursor.start.line
  exact List.append_cancel_right ((source_append cursor).trans whole.symm)

theorem Respaced.not_mem_quote {text other : List Char} (respaced : Respaced text other)
    (noQuote : '"' ∉ text) : '"' ∉ other := by
  induction respaced with
  | nil => exact noQuote
  | @cons letter first text other replaces later ih =>
    simp only [List.mem_cons, not_or] at noQuote ⊢
    refine ⟨?_, ih noQuote.2⟩
    rcases replaces with rfl | ⟨-, rfl⟩
    · exact noQuote.1
    · decide

/-- The gaps before the next tokens of twins have one length. -/
private theorem Twins.drop_gap {cursor twin : Cursor} (twins : Twins cursor twin) :
    twin.rest.drop cursor.gap.length = twin.start.rest := by
  have whole := congrArg List.length (gap_append cursor)
  have twinWhole := congrArg List.length (gap_append twin)
  have rests := List.Forall₂.length_eq twins.rest
  have starts := List.Forall₂.length_eq twins.start.rest
  simp only [List.length_append] at whole twinWhole
  have gaps : cursor.gap.length = twin.gap.length := by omega
  rw [gaps, ← gap_append twin, List.drop_left' rfl]

/-- A token whose source is kept is the same, and twins stand behind it. -/
private theorem Twins.next {cursor twin : Cursor} (twins : Twins cursor twin)
    (noQuote : '"' ∉ cursor.rest) (kept : cursor.source <+: twin.start.rest) :
    twin.next.1 = cursor.next.1 ∧ Twins cursor.next.2 twin.next.2 := by
  have starts := twins.start
  have inside : '"' ∉ cursor.start.rest := fun member =>
    noQuote ((start_suffix cursor).subset member)
  rw [source_eq_spelling noQuote] at kept
  unfold Cursor.next
  rw [starts.line]
  exact starts.rest.take (fun _ _ found => isBlank_start found) inside cursor.start.line kept

/-- The next token is the same exactly where its source is kept. -/
private theorem Twins.next_iff {cursor twin : Cursor} (twins : Twins cursor twin)
    (noQuote : '"' ∉ cursor.rest) :
    twin.next.1 = cursor.next.1 ↔ cursor.source <+: twin.start.rest := by
  constructor
  · intro same
    rw [source_eq_spelling noQuote, ← same,
      ← source_eq_spelling (twins.rest.not_mem_quote noQuote)]
    exact ⟨_, source_append twin⟩
  · intro kept
    exact (twins.next noQuote kept).1

private theorem Twins.drop_source {cursor twin : Cursor} (twins : Twins cursor twin)
    (noQuote : '"' ∉ cursor.rest) (kept : cursor.source <+: twin.start.rest) :
    twin.rest.drop (cursor.gap.length + cursor.source.length) = twin.next.2.rest := by
  have same := (twins.next_iff noQuote).mpr kept
  have sources : cursor.source = twin.source := by
    rw [source_eq_spelling noQuote, ← same,
      ← source_eq_spelling (twins.rest.not_mem_quote noQuote)]
  rw [← List.drop_drop, twins.drop_gap, sources, ← source_append twin, List.drop_left' rfl]

/-- The sources of tokens stand in another text, behind gaps of the same lengths. -/
def Spares : List Span → List Char → Prop
  | [], _ => True
  | span :: spans, other =>
    span.source <+: other.drop span.gap.length ∧
      Spares spans (other.drop (span.gap.length + span.source.length))

instance decidableSpares : (spans : List Span) → (other : List Char) → Decidable (Spares spans other)
  | [], _ => .isTrue trivial
  | span :: spans, other =>
    have := decidableSpares spans (other.drop (span.gap.length + span.source.length))
    inferInstanceAs (Decidable (_ ∧ _))

private theorem head?_lexemes (cursor : Cursor) :
    cursor.lexemes.head? = some ⟨cursor.next.1, cursor.next.2.line⟩ := by
  rw [lexemes]
  split <;> rfl

private theorem Twins.lexemes_iff {cursor twin : Cursor} (twins : Twins cursor twin)
    (noQuote : '"' ∉ cursor.rest) :
    twin.lexemes = cursor.lexemes ↔ Spares cursor.spans twin.rest := by
  induction cursor using token_induction generalizing twin with
  | stop cursor ended =>
    have first := twins.next_iff noQuote
    have nothing : cursor.source = [] := by rw [source_eq_spelling noQuote, ended]; rfl
    have kept : cursor.source <+: twin.start.rest := nothing ▸ List.nil_prefix
    have twinEnded := (first.mpr kept).trans ended
    have lines := (twins.next noQuote kept).2.line
    rw [lexemes_end ended, lexemes_end twinEnded, spans_end ended, lines, Spares, Spares,
      twins.drop_gap]
    exact iff_of_true rfl ⟨kept, trivial⟩
  | more cursor more ih =>
    rw [lexemes_more more, spans_more more, Spares]
    dsimp only
    rw [twins.drop_gap, ← twins.next_iff noQuote]
    by_cases same : twin.next.1 = cursor.next.1
    · have kept := (twins.next_iff noQuote).mp same
      have behind := (twins.next noQuote kept).2
      have later := ih behind fun member => noQuote ((next_suffix cursor).subset member)
      rw [lexemes_more (same ▸ more), twins.drop_source noQuote kept, same, behind.line]
      simp [later]
    · refine iff_of_false (fun all => same ?_) fun both => same both.1
      have heads := congrArg List.head? all
      rw [head?_lexemes, List.head?_cons] at heads
      exact congrArg Lexeme.token (Option.some.inj heads)

/-- A text without quotes has the same tokens on the same lines with spaces in the places of some of
its tabs, NULs and form feeds exactly when the source of every token stands unchanged in its place:
only blanks between tokens and in comments have been replaced. -/
theorem lexemes_respaced_iff {text other : String} (line : Nat) (noQuote : '"' ∉ text.toList)
    (respaced : Respaced text.toList other.toList) :
    (ofText other line).lexemes = (ofText text line).lexemes ↔
      Spares (ofText text line).spans other.toList :=
  Twins.lexemes_iff ⟨rfl, respaced⟩ noQuote

/-- Tabs behind a number, between words and in a comment. -/
theorem lexemes_respaced_iff_call :
    let text := "compute 1\t2 \t3\n# a\tb\n"
    let other := "compute 1 2  3\n# a b\n"
    '"' ∉ text.toList ∧ Respaced text.toList other.toList ∧
      (ofText other 1).lexemes = (ofText text 1).lexemes := by
  have noQuote : '"' ∉ "compute 1\t2 \t3\n# a\tb\n".toList := by decide +kernel
  have respaced : Respaced "compute 1\t2 \t3\n# a\tb\n".toList
      "compute 1 2  3\n# a b\n".toList := by decide +kernel
  exact ⟨noQuote, respaced, (lexemes_respaced_iff 1 noQuote respaced).mpr (by decide +kernel)⟩

/-- A tab between two words makes them one. -/
theorem lexemes_respaced_tab :
    ¬∀ (text other : String) (line : Nat), '"' ∉ text.toList →
      Respaced text.toList other.toList →
      (ofText other line).lexemes = (ofText text line).lexemes := by
  intro alike
  have same := alike "a\tb" "a b" 1 (by decide) (by decide +kernel)
  have counted := congrArg List.length same
  revert counted
  decide +kernel

end Cursor

end GpuScript
