import GpuScript.Section.Cursor

namespace GpuScript

namespace Cursor

/-- Characters dropped in front of one that is kept do not depend on the text behind it. -/
theorem dropWhile_cut {keep : Char → Bool} {front back tail : List Char} {head : Char}
    (found : (front ++ back).dropWhile keep = head :: tail) (long : back.length ≤ tail.length) :
    ∃ middle, front.dropWhile keep = head :: middle ∧ tail = middle ++ back := by
  induction front with
  | nil =>
    have short := length_dropWhile_le keep back
    simp only [List.nil_append] at found
    simp only [found, List.length_cons] at short
    omega
  | cons letter front ih =>
    simp only [List.cons_append, List.dropWhile_cons] at found ⊢
    split at found
    · rename_i kept
      simpa [kept] using ih found
    · rename_i kept
      cases found
      exact ⟨front, by simp [kept], rfl⟩

theorem dropWhile_append_of_cons {keep : Char → Bool} {front middle : List Char} {head : Char}
    (found : front.dropWhile keep = head :: middle) (other : List Char) :
    (front ++ other).dropWhile keep = head :: (middle ++ other) := by
  simp [List.dropWhile_append, found]

theorem cons_cut {head : Char} {text middle back : List Char}
    (same : head :: text = middle ++ back) (long : back.length ≤ text.length) :
    ∃ rest, middle = head :: rest ∧ text = rest ++ back := by
  cases middle with
  | nil =>
    have lengths := congrArg List.length same
    simp only [List.nil_append, List.length_cons] at lengths
    omega
  | cons first rest =>
    cases same
    exact ⟨rest, rfl, rfl⟩

private theorem suffix_cut {part front back : List Char} (suffix : part <:+ front ++ back)
    (long : back.length ≤ part.length) : ∃ middle, part = middle ++ back := by
  obtain ⟨before, same⟩ := suffix
  obtain ⟨middle, parted⟩ : back <:+ part :=
    List.suffix_of_suffix_length_le ⟨front, rfl⟩ ⟨before, same⟩ long
  exact ⟨middle, parted.symm⟩

theorem start_comment {rest text : List Char} (line : Nat) (blank : skipBlanks rest = '#' :: text) :
    start ⟨rest, line⟩ = start ⟨text.dropWhile (· ≠ '\n'), line⟩ := by
  rw [start]
  split <;> simp_all

theorem start_join {rest text : List Char} (line : Nat)
    (blank : skipBlanks rest = '\\' :: '\n' :: text) :
    start ⟨rest, line⟩ = start ⟨text, line + 1⟩ := by
  rw [start]
  split <;> simp_all

theorem start_joinReturn {rest text : List Char} (line : Nat)
    (blank : skipBlanks rest = '\\' :: '\r' :: '\n' :: text) :
    start ⟨rest, line⟩ = start ⟨text, line + 1⟩ := by
  rw [start]
  split <;> simp_all

theorem start_token {rest : List Char} (line : Nat)
    (comment : ∀ text, skipBlanks rest ≠ '#' :: text)
    (join : ∀ text, skipBlanks rest ≠ '\\' :: '\n' :: text)
    (joinReturn : ∀ text, skipBlanks rest ≠ '\\' :: '\r' :: '\n' :: text) :
    start ⟨rest, line⟩ = ⟨skipBlanks rest, line⟩ := by
  rw [start]
  split <;> simp_all

theorem lineBreaks_dropWhile {keep : Char → Bool} (stops : keep '\n' = false) (text : List Char) :
    lineBreaks (text.dropWhile keep) = lineBreaks text := by
  induction text with
  | nil => rfl
  | cons letter text ih =>
    rw [List.dropWhile_cons]
    split
    · rename_i kept
      have other : letter ≠ '\n' := by
        intro same
        simp [same, stops] at kept
      rw [ih, lineBreaks, lineBreaks, List.count_cons_of_ne other]
    · rfl

theorem lineBreaks_eq_zero {text : List Char} (none : '\n' ∉ text) : lineBreaks text = 0 :=
  List.count_eq_zero_of_not_mem none

theorem lineBreaks_append (front back : List Char) :
    lineBreaks (front ++ back) = lineBreaks front + lineBreaks back := List.count_append

private theorem suffix_readHex? {word : List Char} {reading : WordReading}
    (found : readHex? word = some reading) : reading.2 <:+ word := by
  unfold readHex? at found
  split at found
  · rename_i text
    dsimp only at found
    split at found
    · cases found
    · cases found
      exact (List.dropWhile_suffix _).trans ⟨['0', 'x'], rfl⟩
  · cases found

private theorem suffix_readNumber? {word : List Char} {reading : WordReading}
    (found : readNumber? word = some reading) : reading.2 <:+ word := by
  unfold readNumber? at found
  dsimp only at found
  split at found
  · cases found
  · cases found
    exact List.drop_suffix _ _

theorem suffix_readWord (word : List Char) : (readWord word).2 <:+ word := by
  unfold readWord
  split
  · exact List.nil_suffix
  · cases hex : readHex? word with
    | some reading => simpa using suffix_readHex? hex
    | none =>
      cases number : readNumber? word with
      | some reading => simpa using suffix_readNumber? number
      | none => simp

private theorem lineBreaks_readQuoted (escaped : Bool) (text : List Char) :
    (readQuoted escaped text).lines + lineBreaks (readQuoted escaped text).rest =
      lineBreaks text := by
  fun_induction readQuoted escaped text with
  | case1 => rfl
  | case2 letter rest ih | case5 letter rest _ _ ih =>
    simp only [Quoted.push, lineBreaks, List.count_cons, beq_iff_eq] at ih ⊢
    omega
  | case3 rest ih => simpa [lineBreaks] using ih
  | case4 rest => simp [lineBreaks]

theorem feed_not_mem_word (text : List Char) : '\n' ∉ text.takeWhile (!endsWord ·) := by
  intro member
  have kept := List.all_eq_true.mp List.all_takeWhile _ member
  simp [endsWord] at kept

theorem line_start (cursor : Cursor) :
    cursor.start.line + lineBreaks cursor.start.rest = cursor.line + lineBreaks cursor.rest := by
  have blanks (text : List Char) : lineBreaks (skipBlanks text) = lineBreaks text :=
    lineBreaks_dropWhile (by decide) text
  fun_induction start cursor with
  | case1 cursor text blank ih =>
    have same := blanks cursor.rest
    rw [lineBreaks_dropWhile (by decide)] at ih
    rw [ih, ← same, blank]
    rfl
  | case2 cursor text blank ih | case3 cursor text blank ih =>
    have same := blanks cursor.rest
    rw [blank] at same
    simp only [lineBreaks, List.count_cons] at ih same ⊢
    simp at ih same ⊢
    omega
  | case4 cursor => rw [blanks]

private theorem suffix_readFront (text : List Char) : (readFront text).2 <:+ text := by
  obtain ⟨before, same⟩ := suffix_readWord (text.takeWhile (!endsWord ·))
  refine ⟨before, ?_⟩
  rw [readFront, ← List.append_assoc, same, List.takeWhile_append_dropWhile]

private theorem lineBreaks_readFront (text : List Char) :
    lineBreaks (readFront text).2 = lineBreaks text := by
  have short := suffix_readWord (text.takeWhile (!endsWord ·))
  have none : '\n' ∉ (readWord (text.takeWhile (!endsWord ·))).2 :=
    fun member => feed_not_mem_word text (short.subset member)
  rw [readFront, lineBreaks_append, lineBreaks_eq_zero none, lineBreaks_dropWhile (by decide),
    Nat.zero_add]

theorem line_take (line : Nat) (text : List Char) :
    (take line text).2.line + lineBreaks (take line text).2.rest = line + lineBreaks text := by
  fun_cases take line text with
  | case1 => rfl
  | case2 text =>
    simp only [lineBreaks, List.count_cons_self]
    omega
  | case3 text quoted =>
    have same : quoted.lines + lineBreaks quoted.rest = lineBreaks text :=
      lineBreaks_readQuoted false text
    simp only [lineBreaks] at same ⊢
    simp
    omega
  | case4 text | case5 text | case6 text => simp [lineBreaks]
  | case7 text => exact congrArg (line + ·) (lineBreaks_readFront text)

/-- The line after a token and the line breaks still unread make up those unread before it. -/
theorem line_next (cursor : Cursor) :
    cursor.next.2.line + lineBreaks cursor.next.2.rest = cursor.line + lineBreaks cursor.rest :=
  (line_take _ _).trans (line_start cursor)

theorem start_suffix (cursor : Cursor) : cursor.start.rest <:+ cursor.rest := by
  fun_induction start cursor with
  | case1 cursor text blank ih =>
    have whole : skipBlanks cursor.rest <:+ cursor.rest := List.dropWhile_suffix isBlank
    rw [blank] at whole
    exact ih.trans ((List.dropWhile_suffix _).trans ((List.suffix_cons '#' text).trans whole))
  | case2 cursor text blank ih =>
    have whole : skipBlanks cursor.rest <:+ cursor.rest := List.dropWhile_suffix isBlank
    rw [blank] at whole
    exact ih.trans ((List.suffix_append ['\\', '\n'] text).trans whole)
  | case3 cursor text blank ih =>
    have whole : skipBlanks cursor.rest <:+ cursor.rest := List.dropWhile_suffix isBlank
    rw [blank] at whole
    exact ih.trans ((List.suffix_append ['\\', '\r', '\n'] text).trans whole)
  | case4 cursor => exact List.dropWhile_suffix isBlank

/-- Where a token starts does not depend on the text behind a later line end. -/
theorem start_exchange {front back middle : List Char} {line reached : Nat}
    (found : start ⟨front ++ back, line⟩ = ⟨middle ++ back, reached⟩) (feed : '\n' ∈ middle)
    (other : List Char) : start ⟨front ++ other, line⟩ = ⟨middle ++ other, reached⟩ := by
  generalize whole : (⟨front ++ back, line⟩ : Cursor) = cursor at found
  have filled : 0 < middle.length := List.length_pos_of_mem feed
  fun_induction start cursor generalizing front line with
  | case1 cursor text blank ih =>
    subst cursor
    have long := length_start ⟨text.dropWhile (· ≠ '\n'), line⟩
    have comment := length_dropWhile_le (· ≠ '\n') text
    simp only [found, List.length_append] at long
    obtain ⟨hidden, begins, rfl⟩ := dropWhile_cut blank (by omega)
    have more : (hidden ++ back).dropWhile (· ≠ '\n') ≠ [] := by
      intro empty
      rw [empty, List.length_nil] at long
      omega
    obtain ⟨head, rest, kept⟩ := List.exists_cons_of_ne_nil more
    rw [kept, List.length_cons] at long
    obtain ⟨shown, ends, rfl⟩ := dropWhile_cut kept (by omega)
    rw [start_comment line (dropWhile_append_of_cons begins other),
      dropWhile_append_of_cons ends other]
    change start ⟨(head :: shown) ++ other, line⟩ = _
    exact ih (by rw [kept]; rfl) found
  | case2 cursor text blank ih =>
    subst cursor
    have long := length_start ⟨text, line + 1⟩
    simp only [found, List.length_append] at long
    obtain ⟨joined, begins, same⟩ := dropWhile_cut blank (by rw [List.length_cons]; omega)
    obtain ⟨rest, rfl, rfl⟩ := cons_cut same (by omega)
    rw [start_join line (dropWhile_append_of_cons begins other)]
    exact ih rfl found
  | case3 cursor text blank ih =>
    subst cursor
    have long := length_start ⟨text, line + 1⟩
    simp only [found, List.length_append] at long
    obtain ⟨joined, begins, same⟩ := dropWhile_cut blank (by simp only [List.length_cons]; omega)
    obtain ⟨ended, rfl, sameEnd⟩ := cons_cut same (by rw [List.length_cons]; omega)
    obtain ⟨rest, rfl, rfl⟩ := cons_cut sameEnd (by omega)
    rw [start_joinReturn line (dropWhile_append_of_cons begins other)]
    exact ih rfl found
  | case4 cursor comment join joinReturn =>
    subst cursor
    obtain ⟨same, rfl⟩ := Cursor.mk.inj found
    obtain ⟨head, tail, rfl⟩ := List.exists_cons_of_ne_nil (List.ne_nil_of_mem feed)
    obtain ⟨shown, begins, parted⟩ := dropWhile_cut same (by simp)
    obtain rfl := List.append_cancel_right parted
    have reached : skipBlanks (front ++ other) = head :: (tail ++ other) :=
      dropWhile_append_of_cons begins other
    rw [start_token line, reached]
    · rfl
    · intro text blank
      rw [reached] at blank
      exact comment (tail ++ back) (same.trans (by injection blank with first; rw [first]; rfl))
    · intro text blank
      rw [reached] at blank
      injection blank with first after
      rcases tail with _ | ⟨second, tail⟩
      · simp [first] at feed
      · injection after with first' after
        subst head second
        exact join (tail ++ back) same
    · intro text blank
      rw [reached] at blank
      injection blank with first after
      rcases tail with _ | ⟨second, tail⟩
      · simp [first] at feed
      · injection after with first' after
        rcases tail with _ | ⟨third, tail⟩
        · simp [first, first'] at feed
        · injection after with first'' after
          subst head second third
          exact joinReturn (tail ++ back) same

private theorem readQuoted_exchange {escaped : Bool} {front back rest : List Char}
    (found : (readQuoted escaped (front ++ back)).rest = rest ++ back) (more : rest ≠ [])
    (other : List Char) :
    readQuoted escaped (front ++ other) =
      { readQuoted escaped (front ++ back) with rest := rest ++ other } := by
  induction front generalizing escaped with
  | nil =>
    have short := length_readQuoted escaped back
    have filled := List.length_pos_iff.mpr more
    simp only [List.nil_append] at found
    simp only [found, List.length_append] at short
    omega
  | cons letter front ih =>
    cases escaped with
    | true =>
      have inner : readQuoted false (front ++ other) = _ := ih found
      simp only [List.cons_append, readQuoted, inner]
      rfl
    | false =>
      by_cases slash : letter = '\\'
      · subst letter
        change readQuoted true (front ++ other) = _
        exact ih found
      · by_cases quote : letter = '"'
        · subst letter
          obtain rfl := List.append_cancel_right found
          rfl
        · simp only [List.cons_append, readQuoted] at found ⊢
          rw [ih found]
          rfl

theorem takeWhile_append_of_cons {keep : Char → Bool} {front middle : List Char} {head : Char}
    (found : front.dropWhile keep = head :: middle) (other : List Char) :
    (front ++ other).takeWhile keep = front.takeWhile keep := by
  induction front with
  | nil => cases found
  | cons letter front ih =>
    rw [List.dropWhile_cons] at found
    rw [List.cons_append, List.takeWhile_cons, List.takeWhile_cons]
    split
    · rename_i kept
      rw [if_pos kept] at found
      rw [ih found]
    · rfl

private theorem suffix_readQuoted (escaped : Bool) (text : List Char) :
    (readQuoted escaped text).rest <:+ text := by
  fun_induction readQuoted escaped text with
  | case1 => exact List.nil_suffix
  | case2 letter rest ih | case5 letter rest _ _ ih => exact ih.trans (List.suffix_cons letter rest)
  | case3 rest ih => exact ih.trans (List.suffix_cons '\\' rest)
  | case4 rest => exact List.suffix_cons '"' rest

theorem take_suffix (line : Nat) (text : List Char) : (take line text).2.rest <:+ text := by
  fun_cases take line text with
  | case1 => exact List.nil_suffix
  | case2 text | case4 text | case5 text | case6 text => exact List.suffix_cons _ text
  | case3 text quoted => exact (suffix_readQuoted false text).trans (List.suffix_cons '"' text)
  | case7 text => exact suffix_readFront text

theorem isEnd_integerToken (literal : List Char) : (integerToken literal).isEnd = false := by
  unfold integerToken
  split <;> rfl

private theorem isEnd_readWord (word : List Char) : (readWord word).1.isEnd = false := by
  unfold readWord
  split
  · rfl
  · cases hex : readHex? word with
    | some reading =>
      unfold readHex? at hex
      split at hex
      · dsimp only at hex
        split at hex
        · cases hex
        · cases hex
          rfl
      · cases hex
    | none =>
      cases number : readNumber? word with
      | some reading =>
        unfold readNumber? at number
        dsimp only at number
        split at number
        · cases number
        · cases number
          change (if _ then _ else _ : Token).isEnd = false
          split
          · rfl
          · exact isEnd_integerToken _
      | none => rfl

/-- A word that ends before a line does is read the same whatever stands behind that line. -/
theorem readFront_exchange {front back rest : List Char}
    (found : (readFront (front ++ back)).2 = rest ++ back) (feed : '\n' ∈ rest)
    (other : List Char) :
    readFront (front ++ other) = ((readFront (front ++ back)).1, rest ++ other) := by
  simp only [readFront] at found ⊢
  have short := suffix_readWord ((front ++ back).takeWhile (!endsWord ·))
  have clear : '\n' ∉ (readWord ((front ++ back).takeWhile (!endsWord ·))).2 :=
    fun member => feed_not_mem_word _ (short.subset member)
  rcases List.append_eq_append_iff.mp found with ⟨gap, parted, after⟩ | ⟨gap, parted, _⟩
  · rcases gap with _ | ⟨first, gap⟩
    · rw [List.append_nil] at parted
      exact absurd (parted ▸ feed) clear
    · obtain ⟨inside, ends, same⟩ := dropWhile_cut after (by simp)
      obtain rfl := List.append_cancel_right same
      rw [takeWhile_append_of_cons ends] at parted ⊢
      rw [takeWhile_append_of_cons ends, dropWhile_append_of_cons ends, parted]
      simp
  · exact absurd (parted ▸ List.mem_append_left gap feed) clear

theorem take_word {head : Char} {tail : List Char} (line : Nat) (feed : head ≠ '\n')
    (quote : head ≠ '"') (opening : head ≠ '(') (closing : head ≠ ')') (comma : head ≠ ',') :
    take line (head :: tail) =
      ((readFront (head :: tail)).1, ⟨(readFront (head :: tail)).2, line⟩) := by
  unfold take
  split <;> simp_all

theorem isEnd_readFront (text : List Char) : (readFront text).1.isEnd = false :=
  isEnd_readWord _

/-- Only the empty text reads as the end of the text, and only a line break as that of a line. -/
theorem take_isEnd {line : Nat} {text : List Char} (ended : (take line text).1.isEnd = true) :
    (text = [] ∧ take line text = (.endOfText, ⟨[], line⟩)) ∨
      ∃ rest, text = '\n' :: rest ∧ take line text = (.endOfLine, ⟨rest, line + 1⟩) := by
  unfold take at ended
  split at ended
  · exact .inl ⟨rfl, rfl⟩
  · exact .inr ⟨_, rfl, rfl⟩
  iterate 4 cases ended
  rw [isEnd_readFront] at ended
  cases ended

theorem take_endOfLine {line : Nat} {text : List Char} {after : Cursor}
    (found : take line text = (.endOfLine, after)) :
    text = '\n' :: after.rest ∧ after.line = line + 1 := by
  have ended : (take line text).1.isEnd = true := by rw [found]; rfl
  rcases take_isEnd ended with ⟨-, taken⟩ | ⟨rest, rfl, taken⟩
  · cases found.symm.trans taken
  · cases found.symm.trans taken
    exact ⟨rfl, rfl⟩

theorem take_endOfText {line : Nat} {text : List Char} {after : Cursor}
    (found : take line text = (.endOfText, after)) : text = [] ∧ after = ⟨[], line⟩ := by
  have ended : (take line text).1.isEnd = true := by rw [found]; rfl
  rcases take_isEnd ended with ⟨rfl, taken⟩ | ⟨rest, -, taken⟩
  · cases found.symm.trans taken
    exact ⟨rfl, rfl⟩
  · cases found.symm.trans taken

/-- A token that ends before a line does is read the same whatever stands behind that line. -/
theorem take_exchange {middle back rest : List Char} {line reached : Nat} {token : Token}
    (found : take line (middle ++ back) = (token, ⟨rest ++ back, reached⟩)) (begun : middle ≠ [])
    (feed : '\n' ∈ rest ∨ token = .endOfLine) (other : List Char) :
    take line (middle ++ other) = (token, ⟨rest ++ other, reached⟩) := by
  obtain ⟨head, middle, rfl⟩ := List.exists_cons_of_ne_nil begun
  by_cases special : head = '\n' ∨ head = '(' ∨ head = ')' ∨ head = ','
  · rcases special with rfl | rfl | rfl | rfl
    all_goals
      obtain ⟨rfl, landed⟩ := Prod.mk.inj found
      obtain ⟨same, rfl⟩ := Cursor.mk.inj landed
      obtain rfl := List.append_cancel_right same
      rfl
  · by_cases quote : head = '"'
    · subst head
      obtain ⟨rfl, landed⟩ := Prod.mk.inj found
      obtain ⟨same, rfl⟩ := Cursor.mk.inj landed
      have more : rest ≠ [] := by
        rintro rfl
        simp at feed
      have inner := readQuoted_exchange same more other
      simp only [take, List.cons_append, inner]
      rfl
    · simp only [not_or] at special
      obtain ⟨noFeed, opening, closing, comma⟩ := special
      rw [List.cons_append, take_word line noFeed quote opening closing comma] at found ⊢
      obtain ⟨rfl, landed⟩ := Prod.mk.inj found
      obtain ⟨same, rfl⟩ := Cursor.mk.inj landed
      have member : '\n' ∈ rest := by
        rcases feed with member | ended
        · exact member
        · have word := isEnd_readFront (head :: (middle ++ back))
          rw [ended] at word
          cases word
      have inner : readFront ((head :: middle) ++ other) = _ :=
        readFront_exchange same member other
      rw [List.cons_append] at inner
      rw [inner]
      rfl

/-- A token is read the same whatever stands behind a later line end, or behind itself if it is
one. -/
theorem next_exchange {front back rest : List Char} {line reached : Nat} {token : Token}
    (found : next ⟨front ++ back, line⟩ = (token, ⟨rest ++ back, reached⟩))
    (feed : '\n' ∈ rest ∨ token = .endOfLine) (other : List Char) :
    next ⟨front ++ other, line⟩ = (token, ⟨rest ++ other, reached⟩) := by
  have landed : take (start ⟨front ++ back, line⟩).line (start ⟨front ++ back, line⟩).rest =
      (token, ⟨rest ++ back, reached⟩) := found
  have left := take_suffix (start ⟨front ++ back, line⟩).line (start ⟨front ++ back, line⟩).rest
  rw [landed] at left
  obtain ⟨middle, same⟩ := suffix_cut (start_suffix ⟨front ++ back, line⟩)
    ((List.suffix_append rest back).trans left).length_le
  have begun : start ⟨front ++ back, line⟩ =
      ⟨middle ++ back, (start ⟨front ++ back, line⟩).line⟩ := by rw [← same]
  rw [same] at landed left
  have present : '\n' ∈ middle := by
    rcases feed with member | ended
    · obtain ⟨before, parted⟩ := left
      rw [← List.append_assoc] at parted
      exact List.append_cancel_right parted ▸ List.mem_append_right before member
    · have taken := (take_endOfLine (landed.trans (by rw [ended]))).1
      obtain ⟨after, rfl, -⟩ := cons_cut taken.symm (by simp)
      exact List.mem_cons_self
  have begunOther := start_exchange begun present other
  rw [next, begunOther]
  exact take_exchange landed (List.ne_nil_of_mem present) feed other

end Cursor

end GpuScript
