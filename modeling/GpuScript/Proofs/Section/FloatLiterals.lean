import GpuScript.Proofs.Section.Filling

namespace GpuScript

namespace Format

def IsFloat (format : Format) : Prop :=
  ∀ component ∈ format.components, component.mode.isFloat = true

instance (format : Format) : Decidable format.IsFloat :=
  inferInstanceAs (Decidable (∀ component ∈ format.components, _))

/-- The format is of single or double floats that are no list of channels. -/
def OfFloats (format : Format) : Prop :=
  ∃ number, format.type = .number number ∧ number.mode.isFloat = true ∧
    (number.bits = 32 ∨ number.bits = 64)

/-- These are the formats that take literals with a point. -/
theorem takesFloats_iff {format : Format} : format.takesFloats = true ↔ format.OfFloats := by
  unfold takesFloats isStoredAs OfFloats
  cases format.type with
  | channels list => simp
  | number number => simp [Storage.holds, ← and_or_left]

end Format

namespace Reader

variable {words : Words} {command : String} {format : Format}

theorem valueOf_double {token : Token} (isDouble : token.isDouble = true) (isFloat : Bool) :
    valueOf command isFloat token =
      if isFloat then .ok (.double token.toDouble)
      else complain s!"Invalid value provided to {command} command" token := by
  cases token with
  | double => cases isFloat <;> rfl
  | _ => cases isDouble

/-- Doubles in whole rows are read as they are for a format that takes them. -/
theorem run_values_doubles (takes : format.takesFloats = true) (some : words.tokens ≠ [])
    (whole : words.tokens.length % format.type.rows = 0)
    (doubles : ∀ token ∈ words.tokens, token.isDouble = true) :
    (Reader.values command format).run words =
      .ok (words.tokens.map fun token => .double token.toDouble,
        { words with rest := [], line := words.closing.line }) := by
  have made : words.tokens.mapM (valueOf command format.takesFloats) =
      .ok (words.tokens.map fun token => .double token.toDouble) := by
    refine mapM_eq_ok fun token member => ?_
    rw [takes]
    exact valueOf_double (doubles token member) true
  have filled : words.tokens.length ≠ 0 := mt List.length_eq_zero_iff.mp some
  have rows : format.type.rows ≠ 0 := by
    intro none
    rw [none, Nat.mod_zero] at whole
    exact filled whole
  have rowLength : format.rowLength = format.type.rows :=
    Nat.max_eq_left (Nat.one_le_iff_ne_zero.mpr rows)
  rw [run_values, made]
  simp [Except.bind, rowLength, whole, some]

/-- For any other format the first of them is refused. -/
theorem run_values_refused (other : format.takesFloats = false) {first : Token} {rest : List Token}
    (tokens : words.tokens = first :: rest) (isDouble : first.isDouble = true) :
    (Reader.values command format).run words =
      complain s!"Invalid value provided to {command} command" first := by
  rw [run_values, tokens, List.mapM_cons, other, valueOf_double isDouble]
  rfl

end Reader

namespace Session

variable {session : Session} {filling : Filling}

/-- Literals with a point are taken for a scalar, a vector or a matrix of single or double floats,
and recorded as they are. For any other format, be all its components floats or not, the first of
them is refused, and nothing is recorded. -/
theorem execute_floats {statement : Statement} (spelled : filling.Spelled statement)
    (keyword : statement.first.token = .word "ssbo") (ready : session.Ready filling)
    {first : Token} {rest : List Token} (values : filling.values = first :: rest)
    (doubles : ∀ token ∈ filling.values, token.isDouble = true)
    (whole : filling.values.length % filling.format.type.rows = 0) :
    (filling.format.OfFloats →
      ((execute statement).apply session).1 = .ok ⟨⟩ ∧
      ∃ buffer, ((execute statement).apply session).2.commands = session.commands ++
        [storageWrite filling { line := statement.first.line, pipeline := session.pipelineId }
          buffer (filling.values.map fun token => .double token.toDouble)]) ∧
    (¬filling.format.OfFloats →
      ((execute statement).apply session).1 = .error (.located statement.first.line
        (.complaint ⟨"Invalid value provided to ssbo command", some first.spelling⟩)) ∧
      ((execute statement).apply session).2.commands = session.commands) := by
  have filled := spelled.inputCount_ne_zero ready.places.sized
  cases spelled with
  | uniform other => exact absurd (keyword.symm.trans other) (by decide)
  | @storage name _ tokens named =>
    obtain ⟨words, buffer, final, left, kept, ran⟩ :=
      storage_run { session with words := wordsOf statement } tokens named
        ⟨ready.takes, ready.places⟩ filled
    have run : (perform statement).apply session = _ :=
      (apply_perform_word keyword session).trans ran
    rw [apply_execute, run]
    constructor
    · intro floats
      rw [Reader.run_values_doubles (Format.takesFloats_iff.mpr floats) (by simp [left, values])
        (left ▸ whole) (left ▸ doubles), left]
      refine ⟨rfl, buffer, ?_⟩
      exact congrArg (· ++ _) kept
    · intro other
      have refused : filling.format.takesFloats = false :=
        Bool.eq_false_iff.mpr (mt Format.takesFloats_iff.mp other)
      have isDouble := doubles first (values ▸ List.mem_cons_self)
      rw [Reader.run_values_refused refused (left.trans values) isDouble]
      exact ⟨rfl, kept⟩

/-- The only statement of `ssbo 0 subdata <name> 0 1.0 2.0`. -/
def floatWrite (name : String) : Statement :=
  ⟨⟨.word "ssbo", 1⟩,
    [.integer 0 false "0", .word "subdata", .word name, .integer 0 false "0",
      .double ⟨0x3ff0000000000000⟩ false "1.0",
      .double ⟨0x4000000000000000⟩ false "2.0"].map (⟨·, 1⟩),
    ⟨.endOfLine, 2⟩⟩

/-- What it writes in the format of a type. -/
def floatFilling (type : ElementType) : Filling :=
  ⟨⟨0, 0⟩, .ofType type, .integer 0 false "0",
    [.double ⟨0x3ff0000000000000⟩ false "1.0", .double ⟨0x4000000000000000⟩ false "2.0"]⟩

theorem spelled_floatWrite {name : String} {type : ElementType}
    (known : ElementType.ofDatum? name = some type) :
    (floatFilling type).Spelled (floatWrite name) := by
  have named : Format.ofDatum name = .ok (.ofType type) := by
    rw [Format.ofDatum, ElementType.ofDatum, known]
    rfl
  refine .storage rfl ?_ named
  have isInteger : (Token.integer 0 false "0").isInteger = true := rfl
  have plain : (Token.word "subdata").suffix? = none := by decide
  exact .binding isInteger plain

/-- A vector of two singles takes both. -/
theorem execute_floats_vector :
    let session : Session := .start SectionTarget.compute.script ⟨0⟩
    let filling := floatFilling (.number { mode := .signedFloat, bits := 32, rows := 2 })
    let done := (execute (floatWrite "vec2")).apply session
    filling.Spelled (floatWrite "vec2") ∧ session.Ready filling ∧ filling.format.OfFloats ∧
      done.1 = .ok ⟨⟩ ∧
      ∃ buffer, done.2.commands = [storageWrite filling { line := 1, pipeline := ⟨0⟩ } buffer
        [.double ⟨0x3ff0000000000000⟩, .double ⟨0x4000000000000000⟩]] := by
  intro session filling done
  have spelled : filling.Spelled (floatWrite "vec2") := spelled_floatWrite rfl
  have ready : session.Ready filling :=
    ⟨takes_compute _ _, rfl, by decide, by decide, by decide⟩
  have floats : filling.format.OfFloats := ⟨_, rfl, rfl, .inl rfl⟩
  exact ⟨spelled, ready, floats,
    (execute_floats spelled rfl ready rfl (by decide) (by decide)).1 floats⟩

/-- Two channels of single floats refuse the first, though it is a value for either of them. -/
theorem execute_floats_channels :
    ¬∀ (session : Session) (statement : Statement) (filling : Filling),
      filling.Spelled statement → statement.first.token = .word "ssbo" → session.Ready filling →
      filling.format.IsFloat → filling.format.isPacked = false → filling.values ≠ [] →
      (∀ token ∈ filling.values, token.isDouble = true) →
      filling.values.length % filling.format.type.rows = 0 →
      filling.values.length % filling.format.inputCount = 0 →
      ((execute statement).apply session).1 = .ok ⟨⟩ := by
  intro accepted
  let filling := floatFilling
    (.channels ⟨[⟨.red, .signedFloat, 32⟩, ⟨.green, .signedFloat, 32⟩], 0⟩)
  have spelled : filling.Spelled (floatWrite "R32G32_SFLOAT") :=
    spelled_floatWrite (by decide +kernel)
  have ready : (Session.start SectionTarget.compute.script ⟨0⟩).Ready filling :=
    ⟨takes_compute _ _, rfl, by decide, by decide, by decide⟩
  have done := Edit.succeeds_iff.mpr (accepted _ _ filling spelled rfl ready (by decide) (by decide)
    (by decide) (by decide) (by decide) (by decide))
  have taken := (execute_spelled_iff spelled ready).mp done
  exact absurd (taken.2.2 _ List.mem_cons_self) (by decide)

end Session

end GpuScript
