import GpuScript.Proofs.Section.Inversion

namespace GpuScript

namespace Words

def tokens (words : Words) : List Token := words.rest.map (·.token)

variable {words : Words}

theorem Proper.tail (proper : words.Proper) : words.tail.Proper :=
  proper.follows words.follows_tail

theorem Proper.tokens_of_solid (proper : words.Proper) (solid : words.head.isEnd = false) :
    words.tokens = words.head :: words.tail.tokens := by
  obtain ⟨lexeme, rest, parted, same, taken⟩ := proper.exists_head solid
  rw [tokens, parted, same, taken]
  rfl

theorem Proper.tokens_of_end (proper : words.Proper) (ended : words.head.isEnd = true) :
    words.tokens = [] := by
  rw [tokens, proper.rest_eq_nil ended, List.map_nil]

theorem Proper.head_of_nil (proper : words.Proper) (none : words.tokens = []) :
    words.head.isEnd = true := by
  rw [head, List.map_eq_nil_iff.mp none]
  exact proper.closing

theorem tail_of_nil (none : words.tokens = []) :
    words.tail = ⟨[], words.closing, words.closing.line⟩ := by
  obtain ⟨rest, closing, line⟩ := words
  obtain rfl : rest = [] := List.map_eq_nil_iff.mp none
  rfl

theorem Proper.head?_tokens (proper : words.Proper) :
    words.tokens.head? = if words.head.isEnd then none else some words.head := by
  split
  · rename_i ended
    rw [proper.tokens_of_end ended, List.head?_nil]
  · rename_i solid
    rw [proper.tokens_of_solid (by simpa using solid), List.head?_cons]

theorem tail_tokens (words : Words) : words.tokens.tail = words.tail.tokens := by
  obtain ⟨rest, closing, line⟩ := words
  cases rest <;> rfl

theorem drop_tokens (words : Words) : words.tokens.drop 2 = words.tail.tail.tokens := by
  rw [← tail_tokens, ← tail_tokens, ← List.drop_one, ← List.drop_one, List.drop_drop]

theorem Proper.tokens_of_last (proper : words.Proper) (solid : words.head.isEnd = false)
    (ended : words.tail.head.isEnd = true) : words.tokens = [words.head] := by
  rw [proper.tokens_of_solid solid, proper.tail.tokens_of_end ended]

end Words

namespace Reader

variable {words final : Words}

/-- Three integers are the size of a dispatch, of which the first is taken. -/
theorem gridSize_ok (proper : words.Proper) {groups : GridSize}
    (done : (gridSize words.head).run words.tail = .ok (groups, final)) :
    ∃ x y z, words.tokens = [x, y, z] ∧ x.isInteger = true ∧ groups = ⟨x.low, y.low, z.low⟩ := by
  unfold gridSize at done
  obtain ⟨isInteger, done⟩ := guard_ok (refuses_refuseAt _ _) done
  obtain ⟨y, between, integer, done⟩ := bind_ok.mp done
  obtain ⟨rfl, rfl, second⟩ := integer_ok integer
  obtain ⟨z, between, integer, done⟩ := bind_ok.mp done
  obtain ⟨rfl, rfl, third⟩ := integer_ok integer
  obtain ⟨_, left, ended, done⟩ := bind_ok.mp done
  cases done
  have first : words.head.isInteger = true := by simpa using isInteger
  refine ⟨_, _, _, ?_, first, rfl⟩
  rw [proper.tokens_of_solid (Token.isEnd_of_isInteger first),
    proper.tail.tokens_of_solid (Token.isEnd_of_isInteger second),
    proper.tail.tail.tokens_of_last (Token.isEnd_of_isInteger third) (expectEnd_ok ended)]

/-- The options of an array draw are words. -/
theorem arrayOptions_ok {options chosen : ArrayOptions} {lexemes rest : List Cursor.Lexeme}
    (done : arrayOptions options lexemes = .ok (chosen, rest)) :
    rest <:+ lexemes ∧
      (rest.map (·.token)).dropWhile (·.isWord) = (lexemes.map (·.token)).dropWhile (·.isWord) := by
  induction lexemes generalizing options with
  | nil =>
    cases done
    exact ⟨List.suffix_refl _, rfl⟩
  | cons lexeme lexemes ih =>
    unfold arrayOptions at done
    split at done
    · cases done
      exact ⟨List.suffix_refl _, rfl⟩
    · rename_i isWord
      have skipped : ((lexeme :: lexemes).map (·.token)).dropWhile (·.isWord) =
          (lexemes.map (·.token)).dropWhile (·.isWord) :=
        List.dropWhile_cons_of_pos (by simpa using isWord)
      rw [skipped]
      split at done
      · exact ⟨(ih done).1.trans (List.suffix_cons ..), (ih done).2⟩
      · exact ⟨(ih done).1.trans (List.suffix_cons ..), (ih done).2⟩
      · split at done
        · cases done
          exact ⟨List.suffix_cons .., rfl⟩
        · cases done

/-- Behind the options of an array draw stand two integers, and one more or none. -/
theorem arrayDraw_ok (proper : words.Proper) {draw : ArrayDraw}
    (done : arrayDraw.run words = .ok (draw, final)) :
    ∃ first count rest, words.tokens.dropWhile (·.isWord) = first :: count :: rest ∧
      draw.firstVertex = first.low ∧ draw.vertexCount = count.low ∧
      (rest = [] ∨ ∃ instances, rest = [instances] ∧ draw.instanceCount = instances.low) := by
  unfold arrayDraw at done
  obtain ⟨same, between, got, done⟩ := bind_ok.mp done
  cases got
  obtain ⟨⟨options, rest⟩, between, chosen, done⟩ := bind_ok.mp done
  obtain ⟨chosen, rfl⟩ := lift_ok chosen
  obtain ⟨behind, skipped⟩ := arrayOptions_ok chosen
  dsimp only at done
  split at done
  · cases done
  · obtain ⟨_, left, put, done⟩ := bind_ok.mp done
    cases put
    have inside : Words.Proper { between with rest } :=
      ⟨proper.closing, fun lexeme member => proper.inside lexeme (behind.subset member)⟩
    obtain ⟨first, _, integer, done⟩ := bind_ok.mp done
    obtain ⟨rfl, rfl, isFirst⟩ := integer_ok integer
    obtain ⟨count, _, integer, done⟩ := bind_ok.mp done
    obtain ⟨rfl, rfl, isCount⟩ := integer_ok integer
    obtain ⟨following, _, peeked, done⟩ := bind_ok.mp done
    rw [run_peek] at peeked
    cases peeked
    have tokens := inside.tokens_of_solid (Token.isEnd_of_isInteger isFirst)
    rw [inside.tail.tokens_of_solid (Token.isEnd_of_isInteger isCount)] at tokens
    -- The first vertex is no word, so that what the options leave is what is behind all words.
    have numbers := skipped.symm
    rw [show rest.map (·.token) = _ from tokens, List.dropWhile_cons_of_neg
      (by rw [Token.isWord_of_isInteger isFirst]; decide)] at numbers
    split at done
    · obtain ⟨instances, last, read, done⟩ := bind_ok.mp done
      obtain ⟨token, integer, rfl⟩ := map_ok read
      obtain ⟨rfl, rfl, isInteger⟩ := integer_ok integer
      obtain ⟨_, _, ended, done⟩ := bind_ok.mp done
      cases done
      refine ⟨_, _, _, numbers, rfl, rfl, .inr ⟨_, ?_, rfl⟩⟩
      exact inside.tail.tail.tokens_of_last (Token.isEnd_of_isInteger isInteger)
        (expectEnd_ok ended)
    · obtain ⟨_, last, one, done⟩ := bind_ok.mp done
      cases one
      obtain ⟨_, _, ended, done⟩ := bind_ok.mp done
      cases done
      exact ⟨_, _, _, numbers, rfl, rfl,
        .inl (inside.tail.tail.tokens_of_end (expectEnd_ok ended))⟩

/-- Three tokens stand behind `patch`: two words and the number. -/
theorem patchVertexCount_ok (proper : words.Proper) {count : Nat}
    (done : patchVertexCount.run words = .ok (count, final)) :
    ∃ parameter vertices number, words.tokens = [parameter, vertices, number] ∧
      parameter.text = "parameter" ∧ vertices.text = "vertices" ∧ number.isInteger = true ∧
      count = number.low := by
  obtain ⟨parameter, between, taken, done⟩ := bind_ok.mp done
  obtain ⟨rfl, rfl⟩ := next_ok taken
  obtain ⟨first, done⟩ := guard_ok (refuses_refuseAt _ _) done
  obtain ⟨vertices, between, taken, done⟩ := bind_ok.mp done
  obtain ⟨rfl, rfl⟩ := next_ok taken
  obtain ⟨second, done⟩ := guard_ok (refuses_refuseAt _ _) done
  obtain ⟨number, between, integer, done⟩ := bind_ok.mp done
  obtain ⟨rfl, rfl, isInteger⟩ := integer_ok integer
  obtain ⟨_, left, ended, done⟩ := bind_ok.mp done
  cases done
  rw [Decidable.not_not] at first second
  refine ⟨_, _, _, ?_, first, second, isInteger, rfl⟩
  rw [proper.tokens_of_solid (Token.isEnd_of_text first (by decide)),
    proper.tail.tokens_of_solid (Token.isEnd_of_text second (by decide)),
    proper.tail.tail.tokens_of_last (Token.isEnd_of_isInteger isInteger) (expectEnd_ok ended)]

end Reader

end GpuScript
