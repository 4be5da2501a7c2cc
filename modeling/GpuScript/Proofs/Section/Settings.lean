import Mathlib.Tactic.FinCases
import GpuScript.Proofs.Raster.Field
import GpuScript.Proofs.Section.Reading

namespace GpuScript

namespace Setting

open Reader

variable {words final : Words} {keyword noun : String}

theorem firstToken_ok {token : Token}
    (done : (firstToken keyword noun).run words = .ok (token, final)) :
    token = words.head ∧ final = words.tail ∧ token.isEnd = false := by
  obtain ⟨token, between, taken, done⟩ := bind_ok.mp done
  obtain ⟨rfl, rfl⟩ := next_ok taken
  obtain ⟨solid, done⟩ := guard_ok (refuses_refuse _) done
  cases done
  exact ⟨rfl, rfl, by simpa using solid⟩

theorem firstWord_ok {token : Token}
    (done : (firstWord keyword noun).run words = .ok (token, final)) :
    token = words.head ∧ final = words.tail ∧ token.isWord = true := by
  obtain ⟨token, between, taken, done⟩ := bind_ok.mp done
  obtain ⟨rfl, rfl, -⟩ := firstToken_ok taken
  obtain ⟨isWord, done⟩ := guard_ok (refuses_refuseAt _ _) done
  cases done
  exact ⟨rfl, rfl, by simpa using isWord⟩

/-- A truth value is all that stands behind the keyword of a flag. -/
theorem readFlag_ok (proper : words.Proper) {value : Bool}
    (done : (readFlag keyword).run words = .ok (value, final)) :
    FieldKind.flag.valueOf? words.tokens = some value := by
  obtain ⟨token, between, taken, done⟩ := bind_ok.mp done
  obtain ⟨rfl, rfl, isWord⟩ := firstWord_ok taken
  split at done
  · cases done
  · rename_i found
    obtain ⟨_, left, ended, done⟩ := bind_ok.mp done
    cases done
    rw [proper.tokens_of_last (Token.isEnd_of_isWord isWord) (expectEnd_ok ended)]
    exact found

private theorem readNumber_ok (proper : words.Proper) {value : Single}
    (done : (readNumber keyword).run words = .ok (value, final)) :
    FieldKind.number.valueOf? words.tokens = some value := by
  obtain ⟨token, between, taken, done⟩ := bind_ok.mp done
  obtain ⟨rfl, rfl, solid⟩ := firstToken_ok taken
  obtain ⟨double, between, converted, done⟩ := bind_ok.mp done
  obtain ⟨_, left, ended, done⟩ := bind_ok.mp done
  cases done
  unfold Reader.asDouble at converted
  split at converted
  · rename_i found
    cases converted
    rw [proper.tokens_of_last solid (expectEnd_ok ended)]
    change (words.head.asDouble.toOption.map Token.toSingle) = _
    rw [found]
    rfl
  · cases converted

private theorem readReference_ok (proper : words.Proper) {value : Nat}
    (done : (readReference keyword).run words = .ok (value, final)) :
    FieldKind.reference.valueOf? words.tokens = some value := by
  obtain ⟨token, between, taken, done⟩ := bind_ok.mp done
  obtain ⟨rfl, rfl, solid⟩ := firstToken_ok taken
  obtain ⟨isInteger, done⟩ := guard_ok (refuses_refuseAt _ _) done
  obtain ⟨_, left, ended, done⟩ := bind_ok.mp done
  cases done
  rw [proper.tokens_of_last solid (expectEnd_ok ended)]
  exact if_pos (by simpa using isInteger)

/-- A word that spells a value is all that stands behind the keyword. -/
theorem readChoice_ok {Item : Type} {spellings : List (String × Item)} {unknown : String}
    (proper : words.Proper) {value : Item}
    (done : (readChoice spellings noun unknown keyword).run words = .ok (value, final)) :
    FieldKind.spelled? spellings words.tokens = some value := by
  obtain ⟨token, between, taken, done⟩ := bind_ok.mp done
  obtain ⟨rfl, rfl, isWord⟩ := firstWord_ok taken
  split at done
  · cases done
  · rename_i found
    obtain ⟨_, left, ended, done⟩ := bind_ok.mp done
    cases done
    rw [proper.tokens_of_last (Token.isEnd_of_isWord isWord) (expectEnd_ok ended)]
    exact (if_pos isWord).trans found

private theorem termOf_ok {Item : Type} {spellings : List (String × Item)} {rule : String}
    {found : Token → String} {token : Token} {item : Item}
    (done : termOf spellings rule found token = .ok item) :
    spellings.lookup token.text = some item := by
  unfold termOf at done
  split at done
  · rename_i known
    cases done
    exact known
  · cases done

private theorem joinTerms_ok {Item : Type} {spellings : List (String × Item)} {rule : String}
    {found : Token → String} {join : Item → Item → Item} {joined value : Item}
    {tokens : List Token}
    (done : joinTerms (termOf spellings rule found) join joined tokens = .ok value) :
    FieldKind.joined? spellings join joined tokens = some value := by
  induction tokens generalizing joined with
  | nil =>
    cases done
    rfl
  | cons token tokens ih =>
    rw [joinTerms, List.foldlM_cons] at done
    by_cases bar : token.text = "|"
    · rw [if_pos bar] at done
      rw [FieldKind.joined?_bar _ _ _ bar]
      exact ih done
    · rw [if_neg bar] at done
      cases term : termOf spellings rule found token with
      | error fault =>
        rw [term] at done
        cases done
      | ok item =>
        rw [term] at done
        rw [FieldKind.joined?_term join joined bar (termOf_ok term)]
        exact ih done

private theorem readTerms_ok {Item : Type} {spellings : List (String × Item)} {rule : String}
    {found : Token → String} {join : Item → Item → Item} {empty : Item}
    (proper : words.Proper) {value : Item}
    (done : (readTerms keyword noun (termOf spellings rule found) join empty).run words =
      .ok (value, final)) :
    FieldKind.joined? spellings join empty words.tokens = some value := by
  obtain ⟨token, between, taken, done⟩ := bind_ok.mp done
  obtain ⟨rfl, rfl, isWord⟩ := firstWord_ok taken
  obtain ⟨rest, left, taken, done⟩ := bind_ok.mp done
  cases taken
  split at done
  · rename_i joined
    cases done
    rw [proper.tokens_of_solid (Token.isEnd_of_isWord isWord)]
    exact joinTerms_ok joined
  · cases done

/-- Each keyword of a table names a field of a kind, and its assignment sets that field alone. -/
private def AssignsAll (kind : FieldKind) (fields : FieldTable kind.Value) : Prop :=
  ∀ entry ∈ fields, ∃ field, RasterField.ofKeyword? entry.1 = some field ∧
    ∃ same : kind = field.kind, ∀ value state, entry.2 value state =
      RasterState.change state ⟨field, cast (congrArg FieldKind.Value same) value⟩

private theorem assignsAll_tables :
    (AssignsAll .flag flagFields ∧ AssignsAll .number numberFields ∧
        AssignsAll .reference referenceFields) ∧
      (AssignsAll .topology topologyFields ∧ AssignsAll .polygonMode polygonModeFields ∧
        AssignsAll .logicOp logicOpFields ∧ AssignsAll .frontFace frontFaceFields) ∧
      AssignsAll .blendFactor blendFactorFields ∧ AssignsAll .blendOp blendOpFields ∧
      AssignsAll .compareOp compareOpFields ∧ AssignsAll .stencilOp stencilOpFields := by
  refine ⟨⟨?_, ?_, ?_⟩, ⟨?_, ?_, ?_, ?_⟩, ?_, ?_, ?_, ?_⟩ <;> intro entry member <;>
    simp only [flagFields, numberFields, referenceFields, topologyFields, polygonModeFields,
      logicOpFields, frontFaceFields, blendFactorFields, blendOpFields, compareOpFields,
      stencilOpFields, FieldTable] at member <;>
    fin_cases member <;> exact ⟨_, rfl, rfl, fun _ _ => rfl⟩

/-- A reader that succeeds, if one is found for a keyword, has read a change of the field that the
keyword names. -/
def ReadsField (keyword : String) (found : Option (Reader StateChange)) : Prop :=
  ∀ reader ∈ found, ∀ {words final : Words} {change : StateChange}, words.Proper →
    reader.run words = .ok (change, final) →
      ∃ changed, FieldChange.of? keyword words.tokens = some changed ∧
        ∀ state, change state = RasterState.change state changed

theorem ReadsField.orElse {left right : Option (Reader StateChange)}
    (readsLeft : ReadsField keyword left) (readsRight : ReadsField keyword right) :
    ReadsField keyword (left <|> right) := by
  cases left with
  | none => exact readsRight
  | some reader => exact readsLeft

private theorem ReadsField.fromTable? (kind : FieldKind) {fields : FieldTable kind.Value}
    {reader : String → Reader kind.Value} (assigns : AssignsAll kind fields)
    (spells : ∀ {words final : Words}, words.Proper → ∀ {value : kind.Value},
      (reader keyword).run words = .ok (value, final) →
        kind.valueOf? words.tokens = some value) :
    ReadsField keyword (fromTable? fields reader keyword) := by
  intro read found words final change proper done
  obtain ⟨assign, listed, rfl⟩ := Option.map_eq_some_iff.mp found
  obtain ⟨earlier, later, parted, -⟩ := List.lookup_eq_some_iff.mp listed
  obtain ⟨field, named, same, sets⟩ :=
    assigns (keyword, assign) (parted ▸ List.mem_append_right _ List.mem_cons_self)
  subst same
  obtain ⟨value, reading, rfl⟩ := map_ok done
  refine ⟨⟨field, value⟩, ?_, sets value⟩
  rw [FieldChange.of?, named, Option.bind_some, spells proper reading, Option.map_some]

/-- A state command that succeeds has read a change of the field that its keyword names. -/
theorem readsField_reader? (keyword : String) : ReadsField keyword (reader? keyword) := by
  obtain ⟨⟨flags, numbers, references⟩, ⟨topologies, polygonModes, logicOps, frontFaces⟩, factors,
    blendOps, compareOps, stencilOps⟩ := assignsAll_tables
  refine .orElse (.fromTable? .flag flags readFlag_ok) ?_
  refine .orElse (.fromTable? .number numbers readNumber_ok) ?_
  refine .orElse (.fromTable? .reference references readReference_ok) ?_
  refine .orElse (.fromTable? .topology topologies readChoice_ok) ?_
  refine .orElse (.fromTable? .polygonMode polygonModes readChoice_ok) ?_
  refine .orElse (.fromTable? .logicOp logicOps readChoice_ok) ?_
  refine .orElse (.fromTable? .frontFace frontFaces readChoice_ok) ?_
  refine .orElse (.fromTable? .blendFactor factors readChoice_ok) ?_
  refine .orElse (.fromTable? .blendOp blendOps readChoice_ok) ?_
  refine .orElse (.fromTable? .compareOp compareOps readChoice_ok) ?_
  refine .orElse (.fromTable? .stencilOp stencilOps readChoice_ok) ?_
  refine .orElse (.fromTable? .cullMode ?_ readTerms_ok) ?_
  · intro entry member
    obtain rfl := List.eq_of_mem_singleton member
    exact ⟨_, rfl, rfl, fun _ _ => rfl⟩
  refine .orElse (.fromTable? .channelMask ?_ readTerms_ok) ?_
  · intro entry member
    obtain rfl := List.eq_of_mem_singleton member
    exact ⟨_, rfl, rfl, fun _ _ => rfl⟩
  · intro reader found words final change proper done
    split at found
    · cases found
      cases done
    · cases found

end Setting

end GpuScript
