namespace GpuScript

/-- The text before the first marker and the text after it, if the marker stands anywhere. -/
def splitFirst? (marker : List Char) : List Char → Option (List Char × List Char)
  | [] => if marker.isEmpty then some ([], []) else none
  | letter :: rest =>
    if marker.isPrefixOf (letter :: rest) then some ([], (letter :: rest).drop marker.length)
    else (splitFirst? marker rest).map fun parts => (letter :: parts.1, parts.2)

/-- The parts of a text between separators; a text without one is its only part. -/
def splitAll (separator : Char) : List Char → List (List Char)
  | [] => [[]]
  | letter :: rest =>
    if letter = separator then [] :: splitAll separator rest
    else match splitAll separator rest with
      | [] => [[letter]]
      | part :: parts => (letter :: part) :: parts

theorem splitFirst?_append {marker text before after : List Char}
    (found : splitFirst? marker text = some (before, after)) :
    before ++ marker ++ after = text := by
  induction text generalizing before with
  | nil =>
    simp only [splitFirst?, List.isEmpty_iff] at found
    split at found
    · rename_i empty
      cases found
      simp [empty]
    · cases found
  | cons letter rest ih =>
    simp only [splitFirst?] at found
    split at found
    · rename_i here
      cases found
      obtain ⟨tail, same⟩ := List.isPrefixOf_iff_prefix.mp here
      rw [← same]
      simp
    · obtain ⟨⟨front, back⟩, inner, same⟩ := Option.map_eq_some_iff.mp found
      cases same
      simp [← ih inner]

theorem splitFirst?_eq_none_iff {marker text : List Char} :
    splitFirst? marker text = none ↔ ¬marker <:+: text := by
  induction text with
  | nil => cases marker <;> simp [splitFirst?]
  | cons letter rest ih =>
    rw [splitFirst?, List.infix_cons_iff, not_or, ← List.isPrefixOf_iff_prefix]
    split
    · rename_i here
      exact iff_of_false nofun fun absent => absent.1 here
    · rename_i elsewhere
      rw [Option.map_eq_none_iff, ih]
      exact (and_iff_right elsewhere).symm

theorem splitFirst?_of_not_mem {letter : Char} {marker before after : List Char}
    (absent : letter ∉ before) :
    splitFirst? (letter :: marker) (before ++ letter :: marker ++ after) =
      some (before, after) := by
  induction before with
  | nil =>
    have here : (letter :: marker).isPrefixOf (letter :: marker ++ after) = true :=
      List.isPrefixOf_iff_prefix.mpr (List.prefix_append _ _)
    change splitFirst? (letter :: marker) (letter :: marker ++ after) = _
    rw [List.cons_append, splitFirst?, ← List.cons_append, if_pos here, List.drop_left]
  | cons first rest ih =>
    obtain ⟨other, behind⟩ := not_or.mp fun member => absent (List.mem_cons.mpr member)
    have elsewhere : (letter :: marker).isPrefixOf (first :: (rest ++ letter :: marker ++ after)) =
        false := by
      rw [List.isPrefixOf_cons_cons, beq_false_of_ne other, Bool.false_and]
    rw [List.cons_append, List.cons_append, splitFirst?, elsewhere, ih behind]
    rfl

theorem splitAll_ne_nil (separator : Char) (text : List Char) : splitAll separator text ≠ [] := by
  cases text with
  | nil => exact List.cons_ne_nil _ _
  | cons letter rest =>
    rw [splitAll]
    split
    · exact List.cons_ne_nil _ _
    · split <;> exact List.cons_ne_nil _ _

/-- The parts on either side of a separator are those of the whole. -/
theorem splitAll_append (separator : Char) (before after : List Char) :
    splitAll separator (before ++ separator :: after) =
      splitAll separator before ++ splitAll separator after := by
  induction before with
  | nil => simp [splitAll]
  | cons letter rest ih =>
    obtain ⟨part, parts, same⟩ := List.exists_cons_of_ne_nil (splitAll_ne_nil separator rest)
    rw [List.cons_append, splitAll, splitAll, ih, same]
    split <;> rfl

theorem splitAll_of_not_mem {separator : Char} {text : List Char} (absent : separator ∉ text) :
    splitAll separator text = [text] := by
  induction text with
  | nil => rfl
  | cons letter rest ih =>
    obtain ⟨other, behind⟩ := not_or.mp fun member => absent (List.mem_cons.mpr member)
    rw [splitAll, if_neg (Ne.symm other), ih behind]

theorem mem_splitAll (separator : Char) {letter : Char} {text : List Char}
    (member : letter ∈ text) :
    letter = separator ∨ ∃ part ∈ splitAll separator text, letter ∈ part := by
  induction text with
  | nil => cases member
  | cons first rest ih =>
    obtain ⟨part, parts, same⟩ := List.exists_cons_of_ne_nil (splitAll_ne_nil separator rest)
    simp only [same, List.mem_cons, exists_eq_or_imp] at ih
    rw [splitAll]
    split
    · rename_i cut
      simp only [same, List.mem_cons, exists_eq_or_imp]
      rcases List.mem_cons.mp member with rfl | later
      · exact .inl cut
      · exact (ih later).imp_right .inr
    · simp only [same, List.mem_cons, exists_eq_or_imp]
      rcases List.mem_cons.mp member with rfl | later
      · exact .inr (.inl (.inl rfl))
      · exact (ih later).imp_right fun held => held.imp_left .inr

end GpuScript
