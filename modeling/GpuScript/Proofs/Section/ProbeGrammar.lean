import GpuScript.Proofs.Section.Filling
import GpuScript.Proofs.Section.Truncation

namespace GpuScript

/-- A token that is a number for a probe: a double, or an integer that has a minus or is in the signed
range. -/
def Token.IsNumber (token : Token) : Prop :=
  token.isDouble = true ∨
    token.isInteger = true ∧ (token.isNegative = true ∨ token.bits.toNat < 2 ^ 63)

instance (token : Token) : Decidable token.IsNumber :=
  inferInstanceAs (Decidable (_ ∨ _ ∧ (_ ∨ _)))

/-- What a probe records of a number. -/
def Token.number (token : Token) : Single :=
  match token.asDouble with
  | .ok value => value.toSingle
  | .error _ => .zero

def Token.isMark (token : Token) : Bool :=
  token = .comma || token = .openBracket || token = .closeBracket

/-- Numbers behind another one, with a comma before each or none. -/
inductive Later : (numbers tokens : List Token) → Prop
  | nil : Later [] []
  | plain {number : Token} {numbers tokens : List Token} (isNumber : number.IsNumber)
      (later : Later numbers tokens) : Later (number :: numbers) (number :: tokens)
  | comma {number : Token} {numbers tokens : List Token} (isNumber : number.IsNumber)
      (later : Later numbers tokens) : Later (number :: numbers) (.comma :: number :: tokens)

/-- A row of numbers, with a comma or none between two of them. -/
inductive Listed : (numbers tokens : List Token) → Prop
  | cons {number : Token} {numbers tokens : List Token} (isNumber : number.IsNumber)
      (later : Later numbers tokens) : Listed (number :: numbers) (number :: tokens)

/-- So many numbers, bare or in one pair of brackets. -/
inductive Grouped (count : Nat) : (numbers tokens : List Token) → Prop
  | bare {numbers tokens : List Token} (listed : Listed numbers tokens)
      (whole : numbers.length = count) : Grouped count numbers tokens
  | bracketed {numbers tokens : List Token} (listed : Listed numbers tokens)
      (whole : numbers.length = count) :
    Grouped count numbers (.openBracket :: tokens ++ [.closeBracket])

def ProbeChannels.word : ProbeChannels → String
  | rgb => "rgb"
  | rgba => "rgba"

def ProbeChannels.count : ProbeChannels → Nat
  | rgb => 3
  | rgba => 4

/-- What a probe looks at. -/
inductive ProbeShape where
  | point
  | rectangle
  | window
  deriving DecidableEq

namespace ProbeShape

def words : ProbeShape → List Token
  | point => []
  | rectangle => [.word "rect"]
  | window => [.word "all"]

/-- The numbers that place a shape: two for a point, four for a rectangle, and none for the whole
window. -/
inductive Placed : ProbeShape → (numbers tokens : List Token) → Prop
  | point {numbers tokens : List Token} (grouped : Grouped 2 numbers tokens) :
    Placed .point numbers tokens
  | rectangle {numbers tokens : List Token} (grouped : Grouped 4 numbers tokens) :
    Placed .rectangle numbers tokens
  | window : Placed .window [] []

end ProbeShape

/-- What a probe is written with: its words, and the numbers for its area and its colour. -/
structure ProbeText where
  shape : ProbeShape
  channels : ProbeChannels
  area : List Token
  color : List Token

namespace ProbeText

/-- The tokens that a probe can be written with. -/
inductive Spelled (text : ProbeText) : (tokens : List Token) → Prop
  | intro {placed colored : List Token} (area : text.shape.Placed text.area placed)
      (color : Grouped text.channels.count text.color colored) :
    Spelled text (text.shape.words ++ .word text.channels.word :: (placed ++ colored))

def probe (text : ProbeText) (start : Probe) : Probe :=
  { start with
    isWholeWindow := text.shape = .window
    isRectangle := text.shape ≠ .point
    channels := text.channels
    area := Reader.areaOf (text.area.map Token.number)
    color := Reader.colorOf (text.color.map Token.number) }

end ProbeText

namespace Probe

/-- The numbers of the area that the text of a probe gives, in order. -/
def placing (probe : Probe) : List Single :=
  if probe.isWholeWindow then []
  else if probe.isRectangle then
    [probe.area.x, probe.area.y, probe.area.width, probe.area.height]
  else [probe.area.x, probe.area.y]

/-- The numbers of the colour that the text of a probe gives, in order. -/
def coloring (probe : Probe) : List Single :=
  match probe.channels with
  | .rgb => [probe.color.red, probe.color.green, probe.color.blue]
  | .rgba => [probe.color.red, probe.color.green, probe.color.blue, probe.color.alpha]

end Probe

namespace Words

/-- Tokens before the end of a statement are taken one by one. -/
private inductive Takes : Words → List Token → Words → Prop
  | nil (words : Words) : Takes words [] words
  | cons {words after : Words} {taken : List Token} (solid : words.head.isEnd = false)
      (rest : Takes words.tail taken after) : Takes words (words.head :: taken) after

variable {words between after : Words} {taken later rest : List Token}

private theorem Takes.one (solid : words.head.isEnd = false) : words.Takes
    [words.head] words.tail :=
  .cons solid (.nil _)

private theorem Takes.append (first : words.Takes taken between)
    (next : between.Takes later after) :
    words.Takes (taken ++ later) after := by
  induction first with
  | nil => exact next
  | cons solid _ ih => exact .cons solid (ih next)

private theorem Takes.proper (proper : words.Proper) (takes : words.Takes taken after) :
    after.Proper := by
  induction takes with
  | nil => exact proper
  | cons _ _ ih => exact ih proper.tail

private theorem Takes.tokens (proper : words.Proper) (takes : words.Takes taken after) :
    words.tokens = taken ++ after.tokens := by
  induction takes with
  | nil => rfl
  | cons solid _ ih => rw [proper.tokens_of_solid solid, ih proper.tail, List.cons_append]

private theorem Takes.closing (takes : words.Takes taken after) :
    after.closing = words.closing := by
  induction takes with
  | nil => rfl
  | cons _ _ ih => rw [ih, (follows_tail _).closing]

private theorem exists_takes (proper : words.Proper) (tokens : words.tokens = taken ++ rest) :
    ∃ after, words.Takes taken after ∧ after.tokens = rest := by
  induction taken generalizing words with
  | nil => exact ⟨words, .nil words, tokens⟩
  | cons token taken ih =>
    obtain ⟨rfl, left⟩ := head_of_tokens tokens
    obtain ⟨after, takes, same⟩ := ih proper.tail left
    refine ⟨after, .cons ?_ takes, same⟩
    cases ended : words.head.isEnd with
    | false => rfl
    | true =>
      rw [proper.tokens_of_end ended] at tokens
      cases tokens

private theorem Takes.cons_iff {token : Token} : words.Takes (token :: taken) after ↔
    words.head.isEnd = false ∧ words.head = token ∧ words.tail.Takes taken after := by
  constructor
  · intro takes
    cases takes with
    | cons solid rest => exact ⟨solid, rfl, rest⟩
  · rintro ⟨solid, rfl, rest⟩
    exact .cons solid rest

private theorem Takes.append_iff : words.Takes (taken ++ later) after ↔
    ∃ between, words.Takes taken between ∧ between.Takes later after := by
  constructor
  · intro takes
    induction taken generalizing words with
    | nil => exact ⟨words, .nil words, takes⟩
    | cons token taken ih =>
      obtain ⟨solid, rfl, rest⟩ := Takes.cons_iff.mp takes
      obtain ⟨between, first, next⟩ := ih rest
      exact ⟨between, .cons solid first, next⟩
  · rintro ⟨between, first, next⟩
    exact first.append next

end Words

theorem Token.eq_word {token : Token} (isWord : token.isWord = true) :
    token = .word token.text := by
  cases token <;> first | rfl | cases isWord

theorem Token.isNumber_iff {token : Token} :
    token.IsNumber ↔ ∃ double, token.asDouble = .ok double := Token.asDouble_ok_iff.symm

theorem Token.IsNumber.isEnd {token : Token} (isNumber : token.IsNumber) : token.isEnd = false := by
  cases token <;> first | rfl | simp [IsNumber, isDouble, isInteger] at isNumber

theorem Token.IsNumber.isMark {token : Token} (isNumber : token.IsNumber) :
    token.isMark = false := by
  cases token <;> first | rfl | simp [IsNumber, isDouble, isInteger] at isNumber

namespace Reader

variable {words after : Words} {numbers taken : List Token}

theorem run_single (isNumber : words.head.IsNumber) :
    single.run words = .ok (words.head.number, words.tail) := by
  obtain ⟨double, read⟩ := Token.isNumber_iff.mp isNumber
  have converted : (Reader.asDouble words.head).run words.tail = .ok (double, words.tail) := by
    rw [Reader.asDouble, read]
    rfl
  refine bind_ok.mpr ⟨words.head, words.tail, run_next words, ?_⟩
  refine bind_ok.mpr ⟨double, words.tail, converted, ?_⟩
  rw [Token.number, read]
  rfl

theorem single_ok {value : Single} (done : single.run words = .ok (value, after)) :
    words.head.IsNumber ∧ after = words.tail := by
  obtain ⟨token, between, taken, done⟩ := bind_ok.mp done
  obtain ⟨rfl, rfl⟩ := next_ok taken
  obtain ⟨double, left, read, done⟩ := bind_ok.mp done
  cases done
  unfold Reader.asDouble at read
  split at read
  · rename_i isDouble
    cases read
    exact ⟨Token.isNumber_iff.mpr ⟨_, isDouble⟩, rfl⟩
  · cases read

theorem run_accept_same {token : Token} (same : words.head = token) :
    (accept token).run words = .ok (true, words.tail) := by
  refine bind_ok.mpr ⟨words.head, words, run_peek words, ?_⟩
  rw [if_pos same]
  exact bind_ok.mpr ⟨words.head, words.tail, run_next words, rfl⟩

theorem run_accept_other {token : Token} (other : words.head ≠ token) :
    (accept token).run words = .ok (false, words) := by
  refine bind_ok.mpr ⟨words.head, words, run_peek words, ?_⟩
  rw [if_neg other]
  rfl

private theorem accept_ok {token : Token} {same : Bool}
    (done : (accept token).run words = .ok (same, after)) :
    (same = true ∧ words.head = token ∧ after = words.tail) ∨
      same = false ∧ words.head ≠ token ∧ after = words := by
  by_cases here : words.head = token
  · rw [run_accept_same here] at done
    cases done
    exact .inl ⟨rfl, here, rfl⟩
  · rw [run_accept_other here] at done
    cases done
    exact .inr ⟨rfl, here, rfl⟩

theorem run_singleAfterComma (words : Words) : singleAfterComma.run words =
    single.run (if words.head = .comma then words.tail else words) := by
  unfold singleAfterComma
  rw [StateT.run_bind]
  split
  · rename_i comma
    rw [run_accept_same comma]
    rfl
  · rename_i other
    rw [run_accept_other other]
    rfl

private theorem later_sound {count : Nat} {values : List Single}
    (done : ((List.replicate count ()).mapM fun _ => singleAfterComma).run words =
      .ok (values, after)) :
    ∃ numbers taken, Later numbers taken ∧ numbers.length = count ∧ words.Takes taken after := by
  induction count generalizing words values with
  | zero =>
    cases done
    exact ⟨[], [], .nil, rfl, .nil _⟩
  | succ count ih =>
    rw [List.replicate_succ, List.mapM_cons] at done
    obtain ⟨value, between, first, done⟩ := bind_ok.mp done
    obtain ⟨others, left, next, done⟩ := bind_ok.mp done
    cases done
    obtain ⟨numbers, taken, later, whole, takes⟩ := ih next
    rw [run_singleAfterComma] at first
    obtain ⟨isNumber, rfl⟩ := single_ok first
    split at isNumber
    · rename_i comma
      rw [if_pos comma] at takes
      have solid : words.head.isEnd = false := by
        rw [comma]
        rfl
      refine ⟨_, _, .comma isNumber later, congrArg (· + 1) whole, ?_⟩
      exact comma ▸ .cons solid (.cons isNumber.isEnd takes)
    · rename_i other
      rw [if_neg other] at takes
      exact ⟨_, _, .plain isNumber later, congrArg (· + 1) whole, .cons isNumber.isEnd takes⟩

private theorem later_complete (later : Later numbers taken) (takes : words.Takes taken after) :
    ((List.replicate numbers.length ()).mapM fun _ => singleAfterComma).run words =
      .ok (numbers.map Token.number, after) := by
  induction later generalizing words with
  | nil =>
    cases takes
    rfl
  | @plain number numbers tokens isNumber later ih =>
    obtain ⟨-, rfl, rest⟩ := Words.Takes.cons_iff.mp takes
    have other : words.head ≠ .comma := fun comma => by
      rw [comma] at isNumber
      cases isNumber.isMark
    have first : singleAfterComma.run words = .ok (words.head.number, words.tail) := by
      rw [run_singleAfterComma, if_neg other, run_single isNumber]
    rw [List.length_cons, List.replicate_succ, List.mapM_cons]
    exact bind_ok.mpr ⟨_, _, first, bind_ok.mpr ⟨_, _, ih rest, rfl⟩⟩
  | @comma number numbers tokens isNumber later ih =>
    obtain ⟨-, comma, behind⟩ := Words.Takes.cons_iff.mp takes
    obtain ⟨-, rfl, rest⟩ := Words.Takes.cons_iff.mp behind
    have first : singleAfterComma.run words =
        .ok (words.tail.head.number, words.tail.tail) := by
      rw [run_singleAfterComma, if_pos comma, run_single isNumber]
    rw [List.length_cons, List.replicate_succ, List.mapM_cons]
    exact bind_ok.mpr ⟨_, _, first, bind_ok.mpr ⟨_, _, ih rest, rfl⟩⟩

private theorem listed_head_ne {token : Token} (listed : Listed numbers taken)
    (takes : words.Takes taken after) (mark : token.isMark = true) : words.head ≠ token := by
  cases listed with
  | cons isNumber later =>
    obtain ⟨-, rfl, -⟩ := Words.Takes.cons_iff.mp takes
    intro same
    rw [← same, isNumber.isMark] at mark
    cases mark

/-- The end of a group: a bracket closes it exactly if one has opened it. -/
private def closeGroup (isOpen : Bool) (values : List Single) : Reader (List Single) := do
  if (← peek) = .closeBracket then
    if !isOpen then refuse "Missing open bracket for probe command"
    let _ ← next
  else if isOpen then refuse "Missing close bracket for probe command"
  return values

private theorem group_eq (count : Nat) : group count = (do
    let isOpen ← accept .openBracket
    let first ← single
    let others ← (List.replicate (count - 1) ()).mapM fun _ => singleAfterComma
    closeGroup isOpen (first :: others)) := rfl

private theorem closeGroup_ok {isOpen : Bool} {values read : List Single}
    (done : (closeGroup isOpen values).run words = .ok (read, after)) :
    (isOpen = true ∧ words.head = .closeBracket ∧ after = words.tail) ∨
      isOpen = false ∧ after = words := by
  obtain ⟨closing, between, peeked, done⟩ := bind_ok.mp done
  rw [run_peek] at peeked
  cases peeked
  cases isOpen with
  | true =>
    split at done
    · rename_i close
      obtain ⟨_, behind, taking, done⟩ := bind_ok.mp done
      obtain ⟨-, rfl⟩ := next_ok taking
      cases done
      exact .inl ⟨rfl, close, rfl⟩
    · cases done
  | false =>
    split at done
    · cases done
    · cases done
      exact .inr ⟨rfl, rfl⟩

private theorem run_closeGroup_closed {values : List Single} (close : words.head = .closeBracket) :
    (closeGroup true values).run words = .ok (values, words.tail) := by
  refine bind_ok.mpr ⟨words.head, words, run_peek words, ?_⟩
  rw [if_pos close]
  exact bind_ok.mpr ⟨words.head, words.tail, run_next words, rfl⟩

private theorem run_closeGroup_plain {values : List Single} (plain : words.head ≠ .closeBracket) :
    (closeGroup false values).run words = .ok (values, words) := by
  refine bind_ok.mpr ⟨words.head, words, run_peek words, ?_⟩
  rw [if_neg plain]
  rfl

/-- What a group reads is one of the grammar. -/
private theorem group_sound {count : Nat} {values : List Single} (some : 0 < count)
    (done : (group count).run words = .ok (values, after)) :
    ∃ numbers taken, Grouped count numbers taken ∧ words.Takes taken after := by
  rw [group_eq] at done
  obtain ⟨isOpen, opened, accepted, done⟩ := bind_ok.mp done
  obtain ⟨value, between, first, done⟩ := bind_ok.mp done
  obtain ⟨isNumber, rfl⟩ := single_ok first
  obtain ⟨others, left, next, closing⟩ := bind_ok.mp done
  obtain ⟨numbers, taken, later, whole, takes⟩ := later_sound next
  have listed : Listed (opened.head :: numbers) (opened.head :: taken) := .cons isNumber later
  have all : (opened.head :: numbers).length = count := by
    rw [List.length_cons, whole]
    omega
  have inside : opened.Takes (opened.head :: taken) left := .cons isNumber.isEnd takes
  rcases closeGroup_ok closing with ⟨rfl, close, rfl⟩ | ⟨rfl, rfl⟩
  · obtain ⟨-, bracket, rfl⟩ | ⟨other, -⟩ := accept_ok accepted
    · have solid : words.head.isEnd = false := by
        rw [bracket]
        rfl
      have last : left.Takes [.closeBracket] left.tail := close ▸ .one (by
        rw [close]
        rfl)
      exact ⟨_, _, .bracketed listed all, bracket ▸ .cons solid (inside.append last)⟩
    · cases other
  · obtain ⟨same, -⟩ | ⟨-, -, rfl⟩ := accept_ok accepted
    · cases same
    · exact ⟨_, _, .bare listed all, inside⟩

/-- Behind the bracket that may open a group all of its numbers are read. -/
private theorem run_group {count : Nat} {isOpen : Bool} {opened left : Words}
    (accepted : (accept .openBracket).run words = .ok (isOpen, opened))
    (listed : Listed numbers taken) (whole : numbers.length = count)
    (takes : opened.Takes taken left) :
    (group count).run words = (closeGroup isOpen (numbers.map Token.number)).run left := by
  cases listed with
  | @cons number numbers tokens isNumber later =>
    obtain ⟨-, rfl, rest⟩ := Words.Takes.cons_iff.mp takes
    have others := later_complete later rest
    rw [← whole, group_eq, run_bind_of_ok accepted, run_bind_of_ok (run_single isNumber),
      List.length_cons, Nat.add_sub_cancel, run_bind_of_ok others]
    rfl

/-- A group of the grammar is read, if no bracket closes behind it. -/
private theorem group_complete {count : Nat} (grouped : Grouped count numbers taken)
    (takes : words.Takes taken after) (plain : after.head ≠ .closeBracket) :
    (group count).run words = .ok (numbers.map Token.number, after) := by
  cases grouped with
  | bare listed whole =>
    have opened : (accept .openBracket).run words = .ok (false, words) :=
      run_accept_other (listed_head_ne listed takes rfl)
    rw [run_group opened listed whole takes, run_closeGroup_plain plain]
  | bracketed listed whole =>
    obtain ⟨-, bracket, rest⟩ := Words.Takes.cons_iff.mp takes
    obtain ⟨left, inside, last⟩ := Words.Takes.append_iff.mp rest
    obtain ⟨-, close, ended⟩ := Words.Takes.cons_iff.mp last
    cases ended
    rw [run_group (run_accept_same bracket) listed whole inside, run_closeGroup_closed close]

/-- No group begins with a bracket that closes one. -/
private theorem grouped_head {count : Nat} (grouped : Grouped count numbers taken)
    (takes : words.Takes taken after) : words.head ≠ .closeBracket := by
  cases grouped with
  | bare listed => exact listed_head_ne listed takes rfl
  | bracketed listed =>
    obtain ⟨-, bracket, -⟩ := Words.Takes.cons_iff.mp takes
    rw [bracket]
    decide

end Reader

/-- Reads the numbers that place a shape. -/
def ProbeShape.area : ProbeShape → Reader (List Single)
  | point => Reader.group 2
  | rectangle => Reader.group 4
  | window => pure []

/-- The shape that the first word of a probe tells. -/
def Token.shape (token : Token) : ProbeShape :=
  if token.text = "all" then .window else if token.text = "rect" then .rectangle else .point

namespace Reader

variable {words after : Words} {numbers taken : List Token}

private theorem area_sound {shape : ProbeShape} {values : List Single}
    (done : shape.area.run words = .ok (values, after)) :
    ∃ numbers taken, shape.Placed numbers taken ∧ words.Takes taken after := by
  cases shape with
  | point =>
    obtain ⟨numbers, taken, grouped, takes⟩ := group_sound (by decide) done
    exact ⟨numbers, taken, .point grouped, takes⟩
  | rectangle =>
    obtain ⟨numbers, taken, grouped, takes⟩ := group_sound (by decide) done
    exact ⟨numbers, taken, .rectangle grouped, takes⟩
  | window =>
    cases done
    exact ⟨[], [], .window, .nil _⟩

private theorem area_complete {shape : ProbeShape} (placed : shape.Placed numbers taken)
    (takes : words.Takes taken after) (plain : after.head ≠ .closeBracket) :
    shape.area.run words = .ok (numbers.map Token.number, after) := by
  cases placed with
  | point grouped => exact group_complete grouped takes plain
  | rectangle grouped => exact group_complete grouped takes plain
  | window =>
    cases takes
    rfl

/-- The word for the channels of a probe: its first one, or, behind a shape, the next. -/
def channelsWord (first : Token) : Reader Token :=
  if first.shape = .point then pure first else probeWord

theorem probe_eq (first : Token) (start : Probe) : probe first start = (do
    let channels ← channels (← channelsWord first)
    let area ← first.shape.area
    let color ← group channels.count
    expectEnd "Extra parameter to probe command"
    return { start with
      isWholeWindow := first.shape = .window, isRectangle := first.shape ≠ .point
      channels, area := areaOf area, color := colorOf color }) := by
  have counts (channels : ProbeChannels) : (if channels = .rgba then 4 else 3) = channels.count := by
    cases channels <;> rfl
  unfold probe
  simp only [counts]
  by_cases all : first.text = "all"
  · have shape : first.shape = .window := if_pos all
    simp [all, shape, channelsWord, ProbeShape.area]
  · by_cases rect : first.text = "rect"
    · have shape : first.shape = .rectangle := by rw [Token.shape, if_neg all, if_pos rect]
      simp [rect, shape, channelsWord, ProbeShape.area]
    · have shape : first.shape = .point := by rw [Token.shape, if_neg all, if_neg rect]
      have window : (first.text == "all") = false := beq_eq_false_iff_ne.mpr all
      have rectangle : (first.text == "rect") = false := beq_eq_false_iff_ne.mpr rect
      simp [window, rectangle, shape, channelsWord, ProbeShape.area]

private theorem channels_ok {token : Token} {channels : ProbeChannels}
    (done : (Reader.channels token).run words = .ok (channels, after)) :
    token = .word channels.word ∧ after = words := by
  have isWord (text : String) (named : token.text = text) (filled : text ≠ "") :
      token = .word text := by
    rw [← named]
    exact Token.eq_word (Token.isWord_of_text (named ▸ filled))
  unfold Reader.channels at done
  split at done
  · rename_i named
    cases done
    exact ⟨isWord _ named (by decide), rfl⟩
  · rename_i named
    cases done
    exact ⟨isWord _ named (by decide), rfl⟩
  · cases done

private theorem run_channels (channels : ProbeChannels) :
    (Reader.channels (.word channels.word)).run words = .ok (channels, words) := by
  cases channels <;> rfl

private theorem probeWord_ok {token : Token} (done : probeWord.run words = .ok (token, after)) :
    token = words.head ∧ after = words.tail ∧ words.head.isWord = true := by
  obtain ⟨token, between, taken, done⟩ := bind_ok.mp done
  obtain ⟨rfl, rfl⟩ := next_ok taken
  obtain ⟨isWord, done⟩ := guard_ok (refuses_refuseAt _ _) done
  cases done
  exact ⟨rfl, rfl, by simpa using isWord⟩

private theorem run_probeWord {text : String} (word : words.head = .word text) :
    probeWord.run words = .ok (.word text, words.tail) := by
  refine bind_ok.mpr ⟨.word text, words.tail, word ▸ run_next words, rfl⟩

private theorem words_shape {token : Token} (isWord : token.isWord = true)
    (marked : token.shape ≠ .point) : token.shape.words = [token] := by
  rw [Token.eq_word isWord] at marked ⊢
  unfold Token.shape at marked ⊢
  split
  · rename_i all
    exact congrArg (fun text => [Token.word text]) all.symm
  · rename_i other
    rw [if_neg other] at marked
    split
    · rename_i rect
      exact congrArg (fun text => [Token.word text]) rect.symm
    · rename_i neither
      rw [if_neg neither] at marked
      exact absurd rfl marked

private theorem channelsWord_ok (proper : words.Proper) {first token : Token}
    (isWord : first.isWord = true) (done : (channelsWord first).run words = .ok (token, after)) :
    after.Proper ∧ first :: words.tokens = first.shape.words ++ token :: after.tokens := by
  unfold channelsWord at done
  split at done
  · rename_i point
    cases done
    refine ⟨proper, ?_⟩
    rw [point]
    rfl
  · rename_i marked
    obtain ⟨rfl, rfl, next⟩ := probeWord_ok done
    refine ⟨proper.tail, ?_⟩
    rw [words_shape isWord marked, proper.tokens_of_solid (Token.isEnd_of_isWord next)]
    rfl

/-- A probe that is read is one of the grammar. -/
theorem probe_sound (proper : words.Proper) {first : Token} (isWord : first.isWord = true)
    {start probe : Probe} (done : (Reader.probe first start).run words = .ok (probe, after)) :
    ∃ text : ProbeText, text.Spelled (first :: words.tokens) := by
  rw [probe_eq] at done
  obtain ⟨token, between, picked, behindWord⟩ := bind_ok.mp done
  obtain ⟨channels, left, named, behindChannels⟩ := bind_ok.mp behindWord
  obtain ⟨values, placedLeft, areaRead, behindArea⟩ := bind_ok.mp behindChannels
  obtain ⟨colors, coloredLeft, colorRead, behindColor⟩ := bind_ok.mp behindArea
  obtain ⟨_, last, ended, -⟩ := bind_ok.mp behindColor
  obtain ⟨rfl, rfl⟩ := channels_ok named
  obtain ⟨inside, tokens⟩ := channelsWord_ok proper isWord picked
  obtain ⟨area, placed, areas, areaTakes⟩ := area_sound areaRead
  obtain ⟨color, colored, grouped, colorTakes⟩ :=
    group_sound (by cases channels <;> decide) colorRead
  have taken := areaTakes.append colorTakes
  have rest : left.tokens = placed ++ colored := by
    rw [taken.tokens inside, (taken.proper inside).tokens_of_end (expectEnd_ok ended),
      List.append_nil]
  rw [tokens, rest]
  exact ⟨⟨first.shape, channels, area, color⟩, .intro areas grouped⟩

private theorem run_channelsWord {first : Token} {shape : ProbeShape} {channels : ProbeChannels}
    {rest : List Token}
    (tokens : first :: words.tokens = shape.words ++ .word channels.word :: rest) :
    ∃ between, (channelsWord first).run words = .ok (.word channels.word, between) ∧
      between.Follows words ∧ between.tokens = rest ∧ first.shape = shape := by
  cases shape with
  | point =>
    obtain ⟨rfl, rfl⟩ := List.cons.inj tokens
    have point : (Token.word channels.word).shape = .point := by cases channels <;> decide
    refine ⟨words, ?_, .refl words, rfl, point⟩
    rw [channelsWord, if_pos point]
    rfl
  | rectangle =>
    obtain ⟨rfl, left⟩ := List.cons.inj tokens
    obtain ⟨word, rfl⟩ := Words.head_of_tokens left
    exact ⟨words.tail, run_probeWord word, words.follows_tail, rfl, rfl⟩
  | window =>
    obtain ⟨rfl, left⟩ := List.cons.inj tokens
    obtain ⟨word, rfl⟩ := Words.head_of_tokens left
    exact ⟨words.tail, run_probeWord word, words.follows_tail, rfl, rfl⟩

/-- A probe of the grammar is read, and its numbers are those of its text. -/
theorem probe_complete (proper : words.Proper) {first : Token} (start : Probe) {text : ProbeText}
    (spelled : text.Spelled (first :: words.tokens)) :
    (Reader.probe first start).run words =
      .ok (text.probe start, ⟨[], words.closing, words.closing.line⟩) := by
  generalize tokens : first :: words.tokens = row at spelled
  obtain ⟨areas, colors⟩ := spelled
  rename_i placed colored
  obtain ⟨between, picked, follows, left, shape⟩ := run_channelsWord tokens
  have inside : between.Proper := proper.follows follows
  obtain ⟨last, takes, none⟩ :=
    Words.exists_takes inside (left.trans (List.append_nil (placed ++ colored)).symm)
  obtain ⟨middle, areaTakes, colorTakes⟩ := Words.Takes.append_iff.mp takes
  have ended : last.head.isEnd = true := (takes.proper inside).head_of_nil none
  have plain : last.head ≠ .closeBracket := fun close => by
    rw [close] at ended
    cases ended
  have closing : last.closing = words.closing := takes.closing.trans follows.closing
  rw [probe_eq, run_bind_of_ok picked, run_bind_of_ok (run_channels _), shape,
    run_bind_of_ok (area_complete areas areaTakes (grouped_head colors colorTakes)),
    run_bind_of_ok (group_complete colors colorTakes plain),
    run_bind_of_ok (run_expectEnd ended _), Words.tail_of_nil none, closing]
  rfl

end Reader

theorem Grouped.length {count : Nat} {numbers tokens : List Token}
    (grouped : Grouped count numbers tokens) : numbers.length = count := by
  cases grouped with
  | bare _ whole => exact whole
  | bracketed _ whole => exact whole

theorem ProbeShape.Placed.placing {text : ProbeText} {tokens : List Token}
    (placed : text.shape.Placed text.area tokens) (start : Probe) :
    (text.probe start).placing = text.area.map Token.number := by
  obtain ⟨shape, channels, area, color⟩ := text
  cases placed with
  | point grouped =>
    obtain ⟨x, y, rfl⟩ := List.length_eq_two.mp grouped.length
    rfl
  | rectangle grouped =>
    obtain ⟨x, y, width, height, rfl⟩ := List.length_eq_four.mp grouped.length
    rfl
  | window => rfl

theorem Grouped.coloring {text : ProbeText} {tokens : List Token}
    (colored : Grouped text.channels.count text.color tokens) (start : Probe) :
    (text.probe start).coloring = text.color.map Token.number := by
  obtain ⟨shape, channels, area, color⟩ := text
  cases channels with
  | rgb =>
    obtain ⟨red, green, blue, rfl⟩ := List.length_eq_three.mp colored.length
    rfl
  | rgba =>
    obtain ⟨red, green, blue, alpha, rfl⟩ := List.length_eq_four.mp colored.length
    rfl

/-- What is recorded of the area and the colour of a probe are the numbers of its text, in order. -/
theorem ProbeText.Spelled.numbers {text : ProbeText} {tokens : List Token}
    (spelled : text.Spelled tokens) (start : Probe) :
    (text.probe start).placing = text.area.map Token.number ∧
      (text.probe start).coloring = text.color.map Token.number := by
  obtain ⟨areas, colors⟩ := spelled
  exact ⟨areas.placing start, colors.coloring start⟩

/-- Tokens without commas and brackets. -/
def unmarked (tokens : List Token) : List Token := tokens.filter (!·.isMark)

theorem unmarked_append (first next : List Token) :
    unmarked (first ++ next) = unmarked first ++ unmarked next := List.filter_append ..

theorem unmarked_cons_of_mark {token : Token} (mark : token.isMark = true) (tokens : List Token) :
    unmarked (token :: tokens) = unmarked tokens :=
  List.filter_cons_of_neg (by simp [mark])

theorem unmarked_cons_of_plain {token : Token} (plain : token.isMark = false)
    (tokens : List Token) : unmarked (token :: tokens) = token :: unmarked tokens :=
  List.filter_cons_of_pos (by simp [plain])

variable {numbers tokens : List Token}

theorem Later.unmarked_eq (later : Later numbers tokens) : unmarked tokens = numbers := by
  induction later with
  | nil => rfl
  | plain isNumber _ ih => rw [unmarked_cons_of_plain isNumber.isMark, ih]
  | comma isNumber _ ih =>
    rw [unmarked_cons_of_mark (by decide), unmarked_cons_of_plain isNumber.isMark, ih]

theorem Later.bare (later : Later numbers tokens) : Later numbers numbers := by
  induction later with
  | nil => exact .nil
  | plain isNumber _ ih | comma isNumber _ ih => exact .plain isNumber ih

theorem Listed.unmarked_eq (listed : Listed numbers tokens) : unmarked tokens = numbers := by
  cases listed with
  | cons isNumber later => rw [unmarked_cons_of_plain isNumber.isMark, later.unmarked_eq]

theorem Listed.bare (listed : Listed numbers tokens) : Listed numbers numbers := by
  cases listed with
  | cons isNumber later => exact .cons isNumber later.bare

theorem Grouped.unmarked_eq {count : Nat} (grouped : Grouped count numbers tokens) :
    unmarked tokens = numbers := by
  cases grouped with
  | bare listed => exact listed.unmarked_eq
  | bracketed listed =>
    rw [List.cons_append, unmarked_cons_of_mark (by decide), unmarked_append, listed.unmarked_eq]
    exact List.append_nil numbers

theorem Grouped.bared {count : Nat} (grouped : Grouped count numbers tokens) :
    Grouped count numbers numbers := by
  cases grouped with
  | bare listed whole | bracketed listed whole => exact .bare listed.bare whole

theorem ProbeShape.Placed.unmarked_eq {shape : ProbeShape} (placed : shape.Placed numbers tokens) :
    unmarked tokens = numbers := by
  cases placed with
  | point grouped | rectangle grouped => exact grouped.unmarked_eq
  | window => rfl

theorem ProbeShape.Placed.bare {shape : ProbeShape} (placed : shape.Placed numbers tokens) :
    shape.Placed numbers numbers := by
  cases placed with
  | point grouped => exact .point grouped.bared
  | rectangle grouped => exact .rectangle grouped.bared
  | window => exact .window

/-- A probe is the same without its commas and brackets. -/
theorem ProbeText.Spelled.unmarked {text : ProbeText} (spelled : text.Spelled tokens) :
    text.Spelled (unmarked tokens) := by
  obtain ⟨areas, colors⟩ := spelled
  have words : GpuScript.unmarked text.shape.words = text.shape.words := by
    cases text.shape <;> rfl
  rw [unmarked_append, words, unmarked_cons_of_plain rfl, unmarked_append, areas.unmarked_eq,
    colors.unmarked_eq]
  exact .intro areas.bare colors.bared

end GpuScript
