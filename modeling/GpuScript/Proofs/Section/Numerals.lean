import GpuScript.Proofs.Section.Literals

namespace GpuScript

/-- A place in a statement at which a literal stands for a 32-bit word. -/
inductive NumberPlace where
  | descriptorSet
  | binding
  | offset
  | probeOffset
  | size
  | groupsX
  | groupsY
  | groupsZ
  | firstVertex
  | vertexCount
  | instanceCount
  | controlPoints
  deriving DecidableEq

/-- A bound of the words at a place. Offsets of writes are held below the sign bit. -/
def NumberPlace.limit : NumberPlace → Nat
  | .offset => 2 ^ 31
  | _ => 2 ^ 32

/-- A literal at its place, and whether it stands behind a colon. -/
structure Numeral where
  place : NumberPlace
  literal : List Char
  isSuffix : Bool := false
  deriving DecidableEq

namespace Numeral

def value (numeral : Numeral) : Int := Literal.value numeral.literal

/-- The word that is kept for a numeral: the low 32 bits of its token, or, behind a colon, the
decimal digits at its front. -/
def stored (numeral : Numeral) : Nat :=
  if numeral.isSuffix then Decimal.ofDigits (numeral.literal.takeWhile Char.isDigit)
  else (Literal.clamp numeral.value % 2 ^ 32).toNat

/-- The numerals that are kept as what they spell. -/
def Exact (numeral : Numeral) : Prop :=
  if numeral.isSuffix then numeral.value = 0 ∨ ∀ digit ∈ numeral.literal, digit.isDigit = true
  else 0 ≤ numeral.value ∧ numeral.value < 2 ^ 32

instance (numeral : Numeral) : Decidable numeral.Exact :=
  inferInstanceAs (Decidable (if numeral.isSuffix = true then
    numeral.value = 0 ∨ ∀ digit ∈ numeral.literal, digit.isDigit = true
    else 0 ≤ numeral.value ∧ numeral.value < 2 ^ 32))

/-- The word that is kept is the number that is spelled exactly for those numerals. -/
theorem stored_eq_value_iff {numeral : Numeral} (literal : IsLiteral numeral.literal) :
    (numeral.stored : Int) = numeral.value ↔ numeral.Exact := by
  obtain ⟨place, text, isSuffix⟩ := numeral
  cases isSuffix with
  | false =>
    simp only [stored, Exact, value, Bool.false_eq_true, if_false, Literal.clamp]
    omega
  | true =>
    simp only [stored, Exact, value, if_true]
    cases literal with
    | hexadecimal some digital =>
      refine ⟨fun zero => .inl zero.symm, fun exact => ?_⟩
      rcases exact with zero | decimal
      · rw [zero]
        rfl
      · exact absurd (decimal 'x' (by simp)) (by decide)
    | negative some digital =>
      refine ⟨fun zero => .inl zero.symm, fun exact => ?_⟩
      rcases exact with zero | decimal
      · rw [zero]
        rfl
      · exact absurd (decimal '-' (by simp)) (by decide)
    | @decimal digits some digital =>
      rw [List.takeWhile_eq_self_iff.mpr digital, Literal.value_of_decimal digital]
      exact ⟨fun _ => .inr digital, fun _ => rfl⟩

/-- The numeral of an integer token. -/
def ofToken? (place : NumberPlace) (token : Token) : Option Numeral :=
  token.literal?.map fun literal => { place, literal }

/-- The numeral at the front of a text behind a colon. -/
def ofSuffix? (text : List Char) : Option Numeral :=
  (Cursor.readWord text).1.literal?.map fun literal =>
    { place := .binding, literal, isSuffix := true }

/-- The numerals of tokens that stand at a row of places. -/
def atPlaces (places : List NumberPlace) (tokens : List Token) : List Numeral :=
  (places.zip tokens).filterMap fun pair => ofToken? pair.1 pair.2

/-- The numerals of a slot at the front of some tokens, and the tokens behind it. -/
def slot (tokens : List Token) : List Numeral × List Token :=
  match tokens.tail.head?.bind Token.suffix? with
  | some text =>
    (atPlaces [.descriptorSet] tokens ++ (ofSuffix? text).toList, tokens.drop 2)
  | none => (atPlaces [.binding] tokens, tokens.tail)

def beginsWith (word : String) (tokens : List Token) : Bool :=
  tokens.head?.any (·.text == word)

def ofStorage (tokens : List Token) : List Numeral :=
  (slot tokens).1 ++
    if beginsWith "subdata" (slot tokens).2 then atPlaces [.offset] ((slot tokens).2.drop 2)
    else atPlaces [.size] (slot tokens).2

def ofUniform (tokens : List Token) : List Numeral :=
  if beginsWith "ubo" tokens then
    (slot tokens.tail).1 ++ atPlaces [.offset] (slot tokens.tail).2.tail
  else atPlaces [.offset] tokens.tail

def ofProbe (tokens : List Token) : List Numeral :=
  if beginsWith "ssbo" tokens then
    (slot (tokens.drop 2)).1 ++ atPlaces [.probeOffset] (slot (tokens.drop 2)).2
  else []

def ofDraw (tokens : List Token) : List Numeral :=
  if beginsWith "arrays" tokens then
    atPlaces [.firstVertex, .vertexCount, .instanceCount] (tokens.dropWhile (·.isWord))
  else []

def ofCompute (tokens : List Token) : List Numeral :=
  if beginsWith "entrypoint" tokens then [] else atPlaces [.groupsX, .groupsY, .groupsZ] tokens

/-- The numerals behind the word that names a command. -/
def ofCommand (name : String) (tokens : List Token) : List Numeral :=
  match name with
  | "ssbo" => ofStorage tokens
  | "uniform" => ofUniform tokens
  | "probe" => ofProbe tokens
  | "relative" => ofProbe tokens.tail
  | "draw" => ofDraw tokens
  | "compute" => ofCompute tokens
  | "patch" => atPlaces [.controlPoints] (tokens.drop 2)
  | _ => []

end Numeral

/-- The words of a slot. -/
def BindingSlot.number? (slot : BindingSlot) : NumberPlace → Option Nat
  | .descriptorSet => some slot.descriptorSet
  | .binding => some slot.binding
  | _ => none

/-- The word at a place that a command has recorded. The size of a storage buffer is kept with the
buffer. -/
def Command.number? (script : Script) (command : Command) (place : NumberPlace) : Option Nat :=
  match command with
  | .compute _ groups =>
    match place with
    | .groupsX => some groups.x
    | .groupsY => some groups.y
    | .groupsZ => some groups.z
    | _ => none
  | .drawArrays _ _ draw =>
    match place with
    | .firstVertex => some draw.firstVertex
    | .vertexCount => some draw.vertexCount
    | .instanceCount => some draw.instanceCount
    | _ => none
  | .patchVertices _ count => if place = .controlPoints then some count else none
  | .buffer _ write =>
    match place with
    | .offset => some write.offset
    | .size => (script.buffers.store.get? write.buffer).map (·.elementCount)
    | _ => write.slot.number? place
  | .probeStorage _ check =>
    if place = .probeOffset then some check.offset else check.slot.number? place
  | _ => none

namespace Numeral

/-- The word that is kept at the place of a numeral is the one for it, and within the bound. -/
structure KeptBy (numbers : NumberPlace → Option Nat) (numeral : Numeral) : Prop where
  literal : IsLiteral numeral.literal
  number : numbers numeral.place = some numeral.stored
  bound : numeral.stored < numeral.place.limit

private theorem stored_ofToken? {place : NumberPlace} {token : Token} {numeral : Numeral}
    (faithful : token.Faithful) (found : ofToken? place token = some numeral) :
    numeral.place = place ∧ IsLiteral numeral.literal ∧ numeral.stored = token.low := by
  obtain ⟨literal, spelled, rfl⟩ := Option.map_eq_some_iff.mp found
  obtain ⟨isLiteral, bits⟩ := faithful literal spelled
  refine ⟨rfl, isLiteral, ?_⟩
  change (Literal.clamp (Literal.value literal) % 2 ^ 32).toNat = token.bits.toNat % 2 ^ 32
  omega

private theorem stored_ofSuffix? {text : List Char} {binding : Nat} {numeral : Numeral}
    (digits : Reader.bindingOf? text = some binding) (found : ofSuffix? text = some numeral) :
    numeral.place = .binding ∧ IsLiteral numeral.literal ∧ numeral.stored = binding := by
  obtain ⟨literal, spelled, rfl⟩ := Option.map_eq_some_iff.mp found
  obtain ⟨faithful, front⟩ := Cursor.readWord_literal spelled
  refine ⟨rfl, (faithful literal spelled).1, ?_⟩
  unfold Reader.bindingOf? at digits
  split at digits
  · cases digits
  · rw [front] at digits
    exact Option.some.inj digits

private theorem mod_lt_of_bmod_nonneg {bits : Nat} (positive : 0 ≤ (bits : Int).bmod (2 ^ 32)) :
    bits % 2 ^ 32 < 2 ^ 31 := by
  rw [Int.bmod_def] at positive
  omega

/-- The low 32 bits of a token are within the bound of a place; below the sign bit if they are not
those of a negative number. -/
theorem low_lt_limit {place : NumberPlace} {token : Token}
    (positive : place = .offset → 0 ≤ token.lowSigned) : token.low < place.limit := by
  have low : token.low < 2 ^ 32 := Nat.mod_lt _ (by decide)
  cases place with
  | offset => exact mod_lt_of_bmod_nonneg (positive rfl)
  | _ => exact low

/-- The numerals of tokens are kept if the low bits of the integers are, those of offsets without a
sign. -/
theorem kept_atPlaces {numbers : NumberPlace → Option Nat} {places : List NumberPlace}
    {tokens : List Token} (faithful : ∀ token ∈ tokens, token.Faithful)
    (kept : ∀ pair ∈ places.zip tokens,
      numbers pair.1 = some pair.2.low ∧ (pair.1 = .offset → 0 ≤ pair.2.lowSigned)) :
    ∀ numeral ∈ atPlaces places tokens, numeral.KeptBy numbers := by
  intro numeral member
  obtain ⟨pair, paired, found⟩ := List.mem_filterMap.mp member
  obtain ⟨place, literal, stored⟩ :=
    stored_ofToken? (faithful pair.2 (List.of_mem_zip paired).2) found
  obtain ⟨number, positive⟩ := kept pair paired
  refine ⟨literal, by rw [place, stored, number], ?_⟩
  rw [place, stored]
  exact low_lt_limit positive

end Numeral

namespace Words

/-- Integers of a statement have the bits of their literals. -/
structure Faithful (words : Words) : Prop extends words.Proper where
  tokens : ∀ token ∈ words.tokens, token.Faithful

variable {words before : Words}

theorem Faithful.follows (faithful : before.Faithful) (follows : words.Follows before) :
    words.Faithful where
  toProper := faithful.toProper.follows follows
  tokens token member := by
    obtain ⟨lexeme, inside, rfl⟩ := List.mem_map.mp member
    exact faithful.tokens _ (List.mem_map_of_mem (follows.rest.subset inside))

theorem Faithful.tail (faithful : words.Faithful) : words.tail.Faithful :=
  faithful.follows words.follows_tail

/-- The numeral at the front of a statement is kept if the low bits of its first token are. -/
theorem Faithful.kept_first (faithful : words.Faithful) (place : NumberPlace)
    {numbers : NumberPlace → Option Nat} (number : numbers place = some words.head.low)
    (positive : place = .offset → 0 ≤ words.head.lowSigned) :
    ∀ numeral ∈ Numeral.atPlaces [place] words.tokens, numeral.KeptBy numbers := by
  refine Numeral.kept_atPlaces faithful.tokens fun pair paired => ?_
  cases solid : words.head.isEnd with
  | true =>
    rw [faithful.tokens_of_end solid] at paired
    cases paired
  | false =>
    rw [faithful.tokens_of_solid solid, List.zip_cons_cons, List.zip_nil_left,
      List.mem_singleton] at paired
    subst paired
    exact ⟨number, positive⟩

theorem Proper.beginsWith_iff (proper : words.Proper) {word : String} (filled : word ≠ "") :
    Numeral.beginsWith word words.tokens = true ↔ words.head.text = word := by
  rw [Numeral.beginsWith, proper.head?_tokens]
  split
  · rename_i ended
    refine ⟨nofun, fun named => ?_⟩
    rw [Token.isEnd_of_text named filled] at ended
    cases ended
  · exact beq_iff_eq

/-- The numerals of a slot are kept in it. -/
theorem Faithful.kept_slot {final : Words} (faithful : words.Faithful) {command : String}
    {slot : BindingSlot}
    (done : (Reader.slot words.head.low command).run words.tail = .ok (slot, final)) :
    final.tokens = (Numeral.slot words.tokens).2 ∧
      ∀ numeral ∈ (Numeral.slot words.tokens).1, numeral.KeptBy slot.number? := by
  have second := faithful.tail.head?_tokens
  rw [← words.tail_tokens] at second
  unfold Numeral.slot
  rcases Reader.slot_reads done with
    ⟨text, binding, behind, digits, bound, rfl, rfl⟩ | ⟨plain, rfl, rfl⟩
  · rw [if_neg (by rw [Token.isEnd_of_isWord (Token.isWord_of_suffix? behind)]; decide)] at second
    rw [second, Option.bind_some, behind]
    refine ⟨words.drop_tokens.symm, fun numeral member => ?_⟩
    rcases List.mem_append.mp member with set | suffix
    · exact faithful.kept_first .descriptorSet rfl nofun numeral set
    · obtain ⟨place, literal, stored⟩ :=
        Numeral.stored_ofSuffix? digits (Option.mem_toList.mp suffix)
      refine ⟨literal, ?_, ?_⟩
      · rw [place, stored]
        rfl
      · rw [place, stored]
        exact bound
  · have none : words.tokens.tail.head?.bind Token.suffix? = none := by
      rw [second]
      split
      · rfl
      · exact plain
    rw [none]
    exact ⟨words.tail_tokens.symm, faithful.kept_first .binding rfl nofun⟩

end Words

theorem Numeral.KeptBy.of_slot {slot : BindingSlot} {numbers : NumberPlace → Option Nat}
    {numeral : Numeral} (kept : numeral.KeptBy slot.number?)
    (set : numbers .descriptorSet = some slot.descriptorSet)
    (binding : numbers .binding = some slot.binding) : numeral.KeptBy numbers where
  literal := kept.literal
  number := by
    have number := kept.number
    cases place : numeral.place with
    | descriptorSet =>
      rw [place] at number
      exact set.trans number
    | binding =>
      rw [place] at number
      exact binding.trans number
    | _ =>
      rw [place] at number
      exact absurd number nofun
  bound := kept.bound

end GpuScript
