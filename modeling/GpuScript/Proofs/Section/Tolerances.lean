import GpuScript.Proofs.Except
import GpuScript.Proofs.Section.Probes

namespace GpuScript

namespace Token

/-- What the reader makes of a number. -/
def held (token : Token) : Double :=
  match token.asDouble with
  | .ok value => value.toDouble
  | .error _ => .zero

def spelled : Token → Double
  | integer _ _ text => .ofInt (Literal.value text.toList)
  | double _ _ text =>
    if text.toList.map Char.toLower = ['n', 'a', 'n'] then .nan else .ofLiteral text.toList
  | _ => .zero

variable {token : Token} {literal : List Char}

theorem held_of_asDouble {value : Token} (read : token.asDouble = .ok value) :
    token.held = value.toDouble := by
  rw [held, read]

private theorem held_of_isInteger (isInteger : token.isInteger = true) (isNumber : token.IsNumber) :
    token.held = .ofInt token.signed := by
  obtain ⟨value, read⟩ := isNumber_iff.mp isNumber
  rw [held_of_asDouble read]
  cases token with
  | integer bits negative text =>
    simp only [asDouble] at read
    split at read
    · cases read
    · obtain rfl := Except.ok.inj read
      rfl
  | _ => cases isInteger

private theorem value_lt_of_isNumber (faithful : token.Faithful) (showsSign : token.ShowsSign)
    (isNumber : token.IsNumber) (written : token.literal? = some literal) :
    Literal.value literal < 2 ^ 63 := by
  rcases (isNumber_iff_literal faithful showsSign written).mp isNumber with minus | small
  · cases (faithful literal written).1 with
    | hexadecimal => cases minus
    | @negative digits =>
      change -(Decimal.ofDigits digits : Int) < 2 ^ 63
      omega
    | decimal some digital =>
      obtain ⟨rest, rfl⟩ := List.head?_eq_some_iff.mp minus
      exact absurd (digital '-' List.mem_cons_self) (by decide)
  · exact small

/-- Of an accepted integer the number that it spells is held unless that is below the signed
range. -/
theorem held_eq_spelled_iff (faithful : token.Faithful) (showsSign : token.ShowsSign)
    (isNumber : token.IsNumber) (written : token.literal? = some literal) :
    token.held = token.spelled ↔ -2 ^ 63 ≤ Literal.value literal := by
  have upper := value_lt_of_isNumber faithful showsSign isNumber written
  have isInteger : token.isInteger = true := by
    cases token <;> first | rfl | cases written
  have spells : token.spelled = .ofInt (Literal.value literal) := by
    cases token <;> cases written
    rfl
  rw [held_of_isInteger isInteger isNumber, spells]
  constructor
  · intro same
    by_contra below
    have flipped := signed_neg_iff faithful written (.inl (Int.not_le.mp below))
    -- What is below the range has the other sign, and the double of an integer has its sign.
    have signs := congrArg (fun value : Double => value.decode.isNegative) same
    rw [Double.isNegative_ofInt, Double.isNegative_ofInt, decide_eq_decide, flipped] at signs
    exact not_iff_self signs
  · intro lower
    rw [(signed_eq_value_iff faithful written).mpr ⟨lower, upper⟩]

/-- A double token has the value that its text spells. -/
def ShowsDouble (token : Token) : Prop := token.isDouble = true → token.held = token.spelled

/-- Of an accepted number the one that it spells is held unless it is an integer below the signed
range. -/
theorem held_eq_spelled_of_number_iff (faithful : token.Faithful) (showsSign : token.ShowsSign)
    (showsDouble : token.ShowsDouble) (isNumber : token.isInteger = true → token.IsNumber) :
    ((token.isInteger || token.isDouble) = true → token.held = token.spelled) ↔
      ∀ literal ∈ token.literal?, -2 ^ 63 ≤ Literal.value literal := by
  cases written : token.literal? with
  | none =>
    have isInteger : token.isInteger = false := by
      cases token <;> first | rfl | cases written
    rw [isInteger, Bool.false_or]
    exact iff_of_true showsDouble fun literal missing =>
      absurd missing (Option.not_mem_none literal)
  | some literal =>
    have isInteger : token.isInteger = true := by
      cases token <;> first | rfl | cases written
    rw [isInteger, Bool.true_or]
    simp only [Option.mem_some_iff, forall_eq', forall_const]
    exact held_eq_spelled_iff faithful showsSign (isNumber isInteger) written

theorem showsDouble_of_not (other : token.isDouble = false) : token.ShowsDouble := fun isDouble =>
  absurd (isDouble.symm.trans other) (by decide)

end Token

namespace Cursor

/-- A word that begins with a number is no NaN, and neither is a part at its front. -/
theorem take_ne_nan {word : List Char} (starts : startsNumber word = true) (length : Nat) :
    (word.take length).map Char.toLower ≠ ['n', 'a', 'n'] := by
  intro nan
  obtain ⟨first, rest, rfl⟩ : ∃ first rest, word = first :: rest := by
    cases word with
    | nil => cases starts
    | cons first rest => exact ⟨first, rest, rfl⟩
  have lower : first.toLower = 'n' := by
    cases length with
    | zero => cases nan
    | succ length => exact (List.cons.inj nan).1
  have lead : first.isDigit = true ∨ first = '-' ∨ first = '.' := by
    cases rest <;> simp [startsNumber] at starts <;> grind
  rcases lead with digit | rfl | rfl
  · rw [toLower_of_isDigit digit] at lower
    exact absurd (lower ▸ digit) (by decide)
  · exact absurd lower (by decide)
  · exact absurd lower (by decide)

theorem isDouble_integerToken (literal : List Char) : (integerToken literal).isDouble = false := by
  unfold integerToken
  split <;> rfl

private theorem isDouble_readHex? {word : List Char} {reading : WordReading}
    (found : readHex? word = some reading) : reading.1.isDouble = false := by
  unfold readHex? at found
  split at found
  · dsimp only at found
    split at found
    · cases found
    · cases found
      rfl
  · cases found

private theorem showsDouble_readNumber? {word : List Char} {reading : WordReading}
    (found : readNumber? word = some reading) : reading.1.ShowsDouble := by
  unfold readNumber? at found
  dsimp only at found
  split at found
  · cases found
  · rename_i spans
    cases found
    simp only [Bool.or_eq_true, Bool.not_eq_true', decide_eq_true_eq, not_or,
      Bool.not_eq_false] at spans
    obtain ⟨starts, some⟩ := spans
    dsimp only
    split
    · intro _
      rw [Token.spelled, String.toList_ofList, if_neg (take_ne_nan starts _)]
      rfl
    · exact Token.showsDouble_of_not (isDouble_integerToken _)

private theorem showsDouble_readWord (word : List Char) : (readWord word).1.ShowsDouble := by
  unfold readWord
  split
  · rename_i nan
    intro _
    rw [Token.spelled, String.toList_ofList, if_pos nan]
    rfl
  · cases hex : readHex? word with
    | some reading => exact Token.showsDouble_of_not (isDouble_readHex? hex)
    | none =>
      cases number : readNumber? word with
      | some reading => exact showsDouble_readNumber? number
      | none => exact Token.showsDouble_of_not rfl

private theorem showsDouble_next (cursor : Cursor) : cursor.next.1.ShowsDouble := by
  unfold next
  fun_cases take cursor.start.line cursor.start.rest with
  | case7 => exact showsDouble_readWord _
  | _ => exact Token.showsDouble_of_not rfl

end Cursor

/-- The tolerances that tokens write: one for each number, as a percentage if a percent sign stands
behind it. -/
def Tolerance.ofTokens (value : Token → Double) : List Token → List Tolerance
  | [] => []
  | token :: rest =>
    if token.isInteger || token.isDouble then
      ⟨rest.head? == some (.word "%"), value token⟩ :: ofTokens value rest
    else ofTokens value rest

namespace Tolerance

variable {value other : Token → Double} {token : Token} {tokens : List Token}

theorem ofTokens_of_number (number : (token.isInteger || token.isDouble) = true) :
    ofTokens value (token :: tokens) =
      ⟨tokens.head? == some (.word "%"), value token⟩ :: ofTokens value tokens :=
  if_pos number

private theorem ofTokens_of_not (number : (token.isInteger || token.isDouble) = false) :
    ofTokens value (token :: tokens) = ofTokens value tokens :=
  if_neg (Bool.not_eq_true _ ▸ number)

theorem ofTokens_eq_iff :
    ofTokens value tokens = ofTokens other tokens ↔
      ∀ token ∈ tokens, (token.isInteger || token.isDouble) = true → value token = other token := by
  induction tokens with
  | nil => exact iff_of_true rfl (List.forall_mem_nil _)
  | cons token rest ih =>
    rw [List.forall_mem_cons, ← ih]
    cases number : token.isInteger || token.isDouble with
    | true => simp [ofTokens_of_number number]
    | false => simp [ofTokens_of_not number]

end Tolerance

namespace Reader

variable {words final : Words}

/-- Tokens that are read to their end write the tolerances that are read, and their integers are
numbers. -/
theorem tolerancesFrom_ok {found : Nat} {tokens : List Token} {tolerances : List Tolerance}
    (done : tolerancesFrom found tokens = .ok (tolerances, [])) :
    tolerances = Tolerance.ofTokens Token.held tokens ∧
      ∀ token ∈ tokens, token.isInteger = true → token.IsNumber := by
  fun_induction tolerancesFrom found tokens generalizing tolerances with
  | case1 =>
    cases done
    exact ⟨rfl, List.forall_mem_nil _⟩
  | case2 => cases done
  | case3 found rest _ ih =>
    obtain ⟨read, numbers⟩ := ih done
    have comma : Token.comma.isInteger = true → Token.comma.IsNumber := by decide
    exact ⟨read, List.forall_mem_cons.mpr ⟨comma, numbers⟩⟩
  | case4 => cases done
  | case5 found token rest _ _ kind ih =>
    have number : (token.isInteger || token.isDouble) = true := by
      cases integer : token.isInteger <;> cases double : token.isDouble <;> simp_all
    obtain ⟨value, read, done⟩ := bind_ok_iff.mp done
    have isNumber : token.IsNumber := Token.isNumber_iff.mpr ⟨value, read⟩
    rw [Tolerance.ofTokens_of_number number, Token.held_of_asDouble read]
    dsimp only at done
    split at done
    · rename_i rest
      obtain ⟨⟨later, unread⟩, ran, same⟩ := bind_ok_iff.mp done
      cases same
      obtain ⟨rfl, numbers⟩ := ih ran
      have percent : (Token.word "%").isInteger = true → (Token.word "%").IsNumber := by decide
      refine ⟨rfl, List.forall_mem_cons.mpr ⟨fun _ => isNumber, ?_⟩⟩
      exact List.forall_mem_cons.mpr ⟨percent, numbers⟩
    · cases done
    · rename_i plain other
      obtain ⟨⟨later, unread⟩, ran, same⟩ := bind_ok_iff.mp done
      cases same
      have bare : (rest.head? == some (.word "%")) = false := by
        rw [beq_eq_false_iff_ne]
        intro sign
        obtain ⟨tail, rfl⟩ := List.head?_eq_some_iff.mp sign
        exact plain tail rfl
      split at ih
      · exact (plain _ rfl).elim
      · exact (other _ _ rfl).elim
      · obtain ⟨rfl, numbers⟩ := ih ran
        exact ⟨by rw [bare], List.forall_mem_cons.mpr ⟨fun _ => isNumber, numbers⟩⟩

/-- Tolerances that are read are those that the tokens write, one or four. -/
theorem tolerances_ok {tolerances : List Tolerance}
    (done : Reader.tolerances.run words = .ok (tolerances, final)) :
    tolerances = Tolerance.ofTokens Token.held words.tokens ∧
      (tolerances.length = 1 ∨ tolerances.length = 4) ∧
      ∀ token ∈ words.tokens, token.isInteger = true → token.IsNumber := by
  obtain ⟨tokens, between, taken, done⟩ := bind_ok.mp done
  cases taken
  obtain ⟨⟨found, unread⟩, after, read, done⟩ := bind_ok.mp done
  obtain ⟨-, done⟩ := guard_ok (refuses_refuse _) done
  obtain ⟨count, done⟩ := guard_ok (refuses_refuse _) done
  split at done
  · cases done
    obtain ⟨same, numbers⟩ := tolerancesFrom_ok (lift_ok read).1
    exact ⟨same, by omega, numbers⟩
  · exact absurd done (refuses_refuseAt _ _ _ _)

/-- A probe of a colour attachment carries the tolerances that it is given. -/
theorem probe_tolerances {first : Token} {start probe : Probe}
    (done : (Reader.probe first start).run words = .ok (probe, final)) :
    probe.tolerances = start.tolerances := by
  rw [probe_eq] at done
  obtain ⟨_, _, -, done⟩ := bind_ok.mp done
  obtain ⟨_, _, -, done⟩ := bind_ok.mp done
  obtain ⟨_, _, -, done⟩ := bind_ok.mp done
  obtain ⟨_, _, -, done⟩ := bind_ok.mp done
  obtain ⟨_, _, -, done⟩ := bind_ok.mp done
  cases done
  rfl

end Reader

/-- The tolerances that a probe carries. -/
def Command.tolerances? : Command → Option (List Tolerance)
  | .probe _ carrier => some carrier.tolerances
  | .probeStorage _ carrier => some carrier.tolerances
  | _ => none

namespace Statement

def isProbe (statement : Statement) : Bool :=
  statement.first.token.text == "probe" || statement.first.token.text == "relative"

def isTolerance (statement : Statement) : Bool := statement.first.token.text == "tolerance"

/-- The statements before each one that a test picks. -/
def before (picks : Statement → Bool) : List Statement → List (List Statement)
  | [] => []
  | statement :: later =>
    let rest := (before picks later).map (statement :: ·)
    if picks statement then [] :: rest else rest

def tolerances (value : Token → Double) (statement : Statement) : List Tolerance :=
  Tolerance.ofTokens value (Session.wordsOf statement).tokens

/-- The tolerances that the last of some statements to set any writes, or else the initial ones. -/
def lastTolerances (value : Token → Double) (initial : List Tolerance)
    (statements : List Statement) : List Tolerance :=
  ((statements.filter isTolerance).getLast?.map (tolerances value)).getD initial

variable {value : Token → Double} {initial : List Tolerance} {statement : Statement}
  {later : List Statement}

/-- Statements one after the other set what the later ones make of what the earlier ones set. -/
theorem lastTolerances_cons : lastTolerances value initial (statement :: later) =
    lastTolerances value (lastTolerances value initial [statement]) later := by
  unfold lastTolerances
  cases sets : statement.isTolerance with
  | false => simp [sets]
  | true =>
    simp only [List.filter_cons, sets, if_true, List.filter_nil, List.getLast?_cons]
    cases (later.filter isTolerance).getLast? <;> rfl

end Statement

namespace Session

variable {session final : Session}

private theorem probe_tolerances {isRelative : Bool}
    (done : (Session.probe isRelative).apply session = (.ok ⟨⟩, final)) :
    final.tolerances = session.tolerances ∧
      final.commands.filterMap Command.tolerances? =
        session.commands.filterMap Command.tolerances? ++ [session.tolerances] := by
  unfold Session.probe at done
  rw [apply_next_bind] at done
  obtain ⟨-, done⟩ := guard_ok (refuses_refuseAt _ _) done
  split at done
  · obtain ⟨-, -, format, slot, slotted, buffer, agreed, comparator, values, between, words, -, -,
      -, agreeing, -, -, -, rfl⟩ := probeStorage_parts done
    obtain ⟨_, rfl, -⟩ := agreeOnFormat_ok agreeing
    exact ⟨rfl, List.filterMap_append⟩
  · obtain ⟨found, -, done⟩ := pipeline_bind_ok done
    split at done
    · exact absurd done (refuses_throw _ _ _ _)
    · rw [Edit.apply_bind_of_ok (apply_line _), Edit.apply_bind_of_ok (Edit.apply_get _)] at done
      obtain ⟨probe, words, reading, done⟩ := bind_read_ok done
      cases done
      have carried := Reader.probe_tolerances reading
      refine ⟨rfl, List.filterMap_append.trans ?_⟩
      exact congrArg (session.commands.filterMap Command.tolerances? ++ [·]) carried

/-- What a command does about tolerances: `tolerance` sets them, and a probe carries those that it
finds. -/
private structure Carried (name : String) (before after : Session) : Prop where
  tolerances : after.tolerances =
    if name = "tolerance" then Tolerance.ofTokens Token.held before.words.tokens
    else before.tolerances
  probes : after.commands.filterMap Command.tolerances? =
    before.commands.filterMap Command.tolerances? ++
      if name = "probe" ∨ name = "relative" then [before.tolerances] else []
  count : name = "tolerance" → after.tolerances.length = 1 ∨ after.tolerances.length = 4
  numbers : name = "tolerance" →
    ∀ token ∈ before.words.tokens, token.isInteger = true → token.IsNumber

private theorem Carried.aside {name : String} {commands : List Command}
    (setting : name ≠ "tolerance")
    (probing : ¬(name = "probe" ∨ name = "relative"))
    (tolerances : final.tolerances = session.tolerances)
    (recorded : final.commands = session.commands ++ commands)
    (silent : commands.filterMap Command.tolerances? = []) : Carried name session final where
  tolerances := by rw [if_neg setting, tolerances]
  probes := by rw [recorded, List.filterMap_append, silent, if_neg probing]
  count named := absurd named setting
  numbers named := absurd named setting

private theorem carried_of_tolerance (done : tolerance.apply session = (.ok ⟨⟩, final)) :
    Carried "tolerance" session final := by
  unfold tolerance at done
  obtain ⟨tolerances, words, reading, done⟩ := bind_read_ok done
  cases done
  obtain ⟨written, count, numbers⟩ := Reader.tolerances_ok reading
  exact ⟨written, (List.append_nil _).symm, fun _ => count, fun _ => numbers⟩

private theorem carried_of_performed {name : String} (proper : session.words.Proper)
    (setting : name ≠ "tolerance") (probing : ¬(name = "probe" ∨ name = "relative"))
    (performed : Performed session name final) : Carried name session final := by
  cases performed with
  | rectangle | arrays => exact .aside setting probing rfl rfl rfl
  | @clear _ command cleared =>
    refine .aside setting probing rfl rfl ?_
    cases command <;> first | rfl | cases cleared
  | storage done =>
    obtain ⟨words, script, write, change, -, rfl, -⟩ := storage_ok proper done
    exact .aside setting probing rfl rfl rfl
  | uniformBuffer _ _ done =>
    obtain ⟨words, script, write, -, rfl, -⟩ := uniformBuffer_ok done
    exact .aside setting probing rfl rfl rfl
  | pushConstants _ _ done =>
    obtain ⟨words, script, write, -, rfl, -⟩ := pushConstants_ok done
    exact .aside setting probing rfl rfl rfl
  | probe _ _ position | storedProbe position =>
    cases position
    · exact absurd (.inl rfl) probing
    · exact absurd (.inr rfl) probing
  | tolerance => exact absurd rfl setting
  | patch | compute | computeEntry | tessellation | stage =>
    exact .aside setting probing rfl rfl rfl
  | setting => exact .aside setting probing rfl (List.append_nil _).symm rfl

private theorem carried_of_dispatch {name : String} (proper : session.words.Proper)
    (done : (dispatch name).apply session = (.ok ⟨⟩, final)) : Carried name session final := by
  by_cases setting : name = "tolerance"
  · subst setting
    exact carried_of_tolerance done
  · by_cases probing : name = "probe" ∨ name = "relative"
    · obtain ⟨tolerances, probes⟩ : final.tolerances = session.tolerances ∧
          final.commands.filterMap Command.tolerances? =
            session.commands.filterMap Command.tolerances? ++ [session.tolerances] := by
        rcases probing with rfl | rfl
        · exact probe_tolerances done
        · exact @probe_tolerances session.advance final true (relativeProbe_ok done).2
      refine ⟨?_, ?_, fun named => absurd named setting, fun named => absurd named setting⟩
      · rw [if_neg setting, tolerances]
      · rw [if_pos probing, probes]
    · exact carried_of_performed proper setting probing (performed_of_dispatch done)

/-- A statement leaves the tolerances that it sets, if it sets any, and a probe carries those from
before it. -/
theorem carried_of_execute {statement : Statement} (proper : (wordsOf statement).Proper)
    (done : (execute statement).apply session = (.ok ⟨⟩, final)) :
    final.tolerances = Statement.lastTolerances Token.held session.tolerances [statement] ∧
      final.commands.filterMap Command.tolerances? =
        session.commands.filterMap Command.tolerances? ++
          (if statement.isProbe then [session.tolerances] else []) ∧
      (statement.isTolerance →
        ((statement.tolerances Token.held).length = 1 ∨
          (statement.tolerances Token.held).length = 4) ∧
        ∀ token ∈ (wordsOf statement).tokens, token.isInteger = true → token.IsNumber) := by
  obtain ⟨-, ran⟩ := dispatched_of_execute done
  obtain ⟨tolerances, probes, count, numbers⟩ := carried_of_dispatch proper ran
  have named : statement.isTolerance = true ↔ statement.first.token.text = "tolerance" :=
    beq_iff_eq
  have probing : statement.isProbe = true ↔
      statement.first.token.text = "probe" ∨ statement.first.token.text = "relative" := by
    rw [Statement.isProbe, Bool.or_eq_true, beq_iff_eq, beq_iff_eq]
  refine ⟨?_, ?_, fun sets => ?_⟩
  · rw [tolerances, Statement.lastTolerances]
    by_cases sets : statement.isTolerance = true
    · rw [if_pos (named.mp sets), List.filter_cons_of_pos sets]
      rfl
    · rw [if_neg (mt named.mpr sets), List.filter_cons_of_neg sets]
      rfl
  · rw [probes]
    simp only [probing]
  · rw [if_pos (named.mp sets)] at tolerances
    have written : statement.tolerances Token.held = final.tolerances := tolerances.symm
    exact ⟨written ▸ count (named.mp sets), numbers (named.mp sets)⟩

/-- A run leaves the tolerances that its statements set last, and each of its probes carries those
that are set last before it. -/
theorem carried_of_executeAll {statements : List Statement}
    (proper : ∀ statement ∈ statements, (wordsOf statement).Proper)
    (done : (executeAll statements).apply session = (.ok ⟨⟩, final)) :
    final.tolerances = Statement.lastTolerances Token.held session.tolerances statements ∧
      final.commands.filterMap Command.tolerances? =
        session.commands.filterMap Command.tolerances? ++
          (Statement.before Statement.isProbe statements).map
            (Statement.lastTolerances Token.held session.tolerances) ∧
      ∀ statement ∈ statements, statement.isTolerance →
        ((statement.tolerances Token.held).length = 1 ∨
          (statement.tolerances Token.held).length = 4) ∧
        ∀ token ∈ (wordsOf statement).tokens, token.isInteger = true → token.IsNumber := by
  induction statements generalizing session with
  | nil =>
    cases done
    exact ⟨rfl, (List.append_nil _).symm, List.forall_mem_nil _⟩
  | cons statement later ih =>
    obtain ⟨between, first, rest⟩ := executeAll_cons_ok.mp done
    obtain ⟨set, probed, sets⟩ := carried_of_execute (proper statement List.mem_cons_self) first
    obtain ⟨lastSet, lastProbed, lastSets⟩ :=
      ih (fun other member => proper other (List.mem_cons_of_mem _ member)) rest
    have behind : (Statement.before Statement.isProbe later).map
          (Statement.lastTolerances Token.held between.tolerances) =
        ((Statement.before Statement.isProbe later).map (statement :: ·)).map
          (Statement.lastTolerances Token.held session.tolerances) := by
      rw [List.map_map, set]
      exact List.map_congr_left fun before _ => Statement.lastTolerances_cons.symm
    refine ⟨?_, ?_, List.forall_mem_cons.mpr ⟨sets, lastSets⟩⟩
    · rw [lastSet, set, ← Statement.lastTolerances_cons]
    · rw [lastProbed, probed, behind, List.append_assoc, Statement.before]
      split <;> rfl

end Session

namespace Statement

theorem mem_of_before {picks : Statement → Bool} {statements earlier : List Statement}
    (member : earlier ∈ before picks statements) :
    ∀ statement ∈ earlier, statement ∈ statements := by
  induction statements generalizing earlier with
  | nil => cases member
  | cons statement later ih =>
    have front : earlier ∈ (before picks later).map (statement :: ·) →
        ∀ other ∈ earlier, other ∈ statement :: later := by
      intro found
      obtain ⟨rest, within, rfl⟩ := List.mem_map.mp found
      exact List.forall_mem_cons.mpr
        ⟨List.mem_cons_self, fun other inside => List.mem_cons_of_mem _ (ih within other inside)⟩
    rw [before] at member
    split at member
    · rcases List.mem_cons.mp member with rfl | found
      · exact List.forall_mem_nil _
      · exact front found
    · exact front member

/-- Where each statement that sets tolerances sets one or four, a probe has none only if there is no
such statement before it. -/
theorem length_lastTolerances {value : Token → Double} {statements : List Statement}
    (count : ∀ statement ∈ statements, statement.isTolerance →
      (statement.tolerances value).length = 1 ∨ (statement.tolerances value).length = 4) :
    let held := lastTolerances value [] statements
    (held.length = 0 ∨ held.length = 1 ∨ held.length = 4) ∧
      (held = [] ↔ ∀ statement ∈ statements, statement.isTolerance = false) := by
  intro held
  cases last : (statements.filter isTolerance).getLast? with
  | none =>
    have none : held = [] := by
      change Option.getD (Option.map _ (List.getLast? _)) _ = _
      rw [last]
      rfl
    have unset := List.filter_eq_nil_iff.mp (List.getLast?_eq_none_iff.mp last)
    refine ⟨.inl (by rw [none]; rfl), iff_of_true none fun statement member => ?_⟩
    exact Bool.eq_false_iff.mpr (unset statement member)
  | some statement =>
    have same : held = statement.tolerances value := by
      change Option.getD (Option.map _ (List.getLast? _)) _ = _
      rw [last]
      rfl
    obtain ⟨member, sets⟩ := List.mem_filter.mp (List.mem_of_getLast? last)
    have filled := count statement member sets
    rw [← same] at filled
    refine ⟨.inr filled, iff_of_false (fun none => ?_) fun unset => ?_⟩
    · rw [none] at filled
      exact absurd filled (by decide)
    · exact absurd (sets.symm.trans (unset statement member)) (by decide)

end Statement

namespace Script

open Session

/-- In a section that is read to its end each probe carries the tolerances that the last `tolerance`
before it writes, each a percentage if a percent sign stands behind its number, and none where there
is no such statement: one, four or none. What is held of its numbers is what their texts spell,
exactly if no integer of the statement is below the signed range. -/
theorem readSection_tolerances {script : Script} {id : Id Pipeline} {line : Nat} {text : String}
    (done : (script.readSection id line text).1 = .ok ⟨⟩) :
    let statements := Statement.ofText text line
    let final := (script.readSection id line text).2
    final.commands.filterMap Command.tolerances? =
        (Statement.before Statement.isProbe statements).map
          (Statement.lastTolerances Token.held []) ∧
      (∀ earlier ∈ Statement.before Statement.isProbe statements,
        let held := Statement.lastTolerances Token.held [] earlier
        (held.length = 0 ∨ held.length = 1 ∨ held.length = 4) ∧
          (held = [] ↔ ∀ statement ∈ earlier, statement.isTolerance = false)) ∧
      ∀ statement ∈ statements, statement.isTolerance →
        (statement.tolerances Token.held = statement.tolerances Token.spelled ↔
          ∀ token ∈ (wordsOf statement).tokens, ∀ literal ∈ token.literal?,
            -2 ^ 63 ≤ Literal.value literal) := by
  intro statements final
  obtain ⟨reached, ran, left⟩ := readSection_ok done
  have proper : ∀ statement ∈ statements, (wordsOf statement).Proper :=
    fun _ => Statement.proper_of_mem
  obtain ⟨-, probes, sets⟩ := carried_of_executeAll proper ran
  refine ⟨?_, fun earlier member => ?_, fun statement member named => ?_⟩
  · rw [show final = reached.committed from left]
    exact probes
  · refine Statement.length_lastTolerances fun statement inside named => ?_
    exact (sets statement (Statement.mem_of_before member statement inside) named).1
  · obtain ⟨-, numbers⟩ := sets statement member named
    rw [Statement.tolerances, Statement.tolerances, Tolerance.ofTokens_eq_iff]
    refine forall₂_congr fun token inside => ?_
    have faithful := Statement.faithful_of_mem member token inside
    have showsSign := Statement.forall_tokens Cursor.showsSign_next member token inside
    have showsDouble := Statement.forall_tokens Cursor.showsDouble_next member token inside
    exact Token.held_eq_spelled_of_number_iff faithful showsSign showsDouble (numbers token inside)

/-- The second probe carries a percentage and three differences, the first one nothing. -/
theorem readSection_tolerances_percent :
    let script := (SectionTarget.graphics 8 8).script
    let text := "probe rgb 0 0 1 1 1\ntolerance 3% 0.5, 1 2\nprobe rgb 0 0 1 1 1\n"
    let statements := Statement.ofText text 1
    (script.readSection ⟨0⟩ 1 text).1 = .ok ⟨⟩ ∧
      (script.readSection ⟨0⟩ 1 text).2.commands.filterMap Command.tolerances? =
        (Statement.before Statement.isProbe statements).map
          (Statement.lastTolerances Token.held []) ∧
      (Statement.before Statement.isProbe statements).map
          (fun earlier => (Statement.lastTolerances Token.spelled [] earlier).map (·.isPercent)) =
        [[], [true, false, false, false]] := by
  intro script text statements
  have done : (script.readSection ⟨0⟩ 1 text).1 = .ok ⟨⟩ := by decide +kernel
  exact ⟨done, (readSection_tolerances done).1, by decide +kernel⟩

/-- Not every probe carries the numbers that the last tolerances before it spell. -/
theorem readSection_tolerances_wrapped :
    ¬∀ (script : Script) (id : Id Pipeline) (line : Nat) (text : String),
      (script.readSection id line text).1 = .ok ⟨⟩ →
      (script.readSection id line text).2.commands.filterMap Command.tolerances? =
        (Statement.before Statement.isProbe (Statement.ofText text line)).map
          (Statement.lastTolerances Token.spelled []) := by
  intro always
  have same := always (SectionTarget.graphics 8 8).script ⟨0⟩ 1
    "tolerance -9223372036854775809\nprobe rgb 0 0 1 1 1\n" (by decide +kernel)
  revert same
  decide +kernel

end Script

end GpuScript
