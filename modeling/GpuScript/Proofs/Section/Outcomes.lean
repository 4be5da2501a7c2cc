import GpuScript.Proofs.Section.Buffers
import GpuScript.Proofs.Section.Cut
import GpuScript.Proofs.Section.Steps

namespace GpuScript

namespace Words

/-- The tokens of a statement stand on one line. -/
def Level (words : Words) : Prop := ∀ lexeme ∈ words.rest, lexeme.line = words.line

theorem Level.tail {words : Words} (level : words.Level) (proper : words.Proper)
    (solid : words.head.isEnd = false) : words.tail.Level ∧ words.tail.line = words.line := by
  obtain ⟨lexeme, rest, parted, -, taken⟩ := proper.exists_head solid
  have first : lexeme.line = words.line := level lexeme (parted ▸ List.mem_cons_self)
  rw [taken]
  refine ⟨fun other member => ?_, first⟩
  exact (level other (parted ▸ List.mem_cons_of_mem _ member)).trans first.symm

/-- The line that a command takes for its own: that of its name, but a clear looks at the token
after its name first. -/
def lineOf (words : Words) (name : String) : Nat :=
  if name = "clear" then words.tail.line else words.line

end Words

/-- One script has become another by the change of sizes that a command tells of, or by none. -/
def Script.Follows (change : Option (Id Buffer × SizeChange)) (before after : Script) : Prop :=
  match change with
  | none => Settled before after
  | some (id, change) => Undergoes id change before after

namespace Session

/-- What a command that succeeds has recorded, on which line if its tokens stand on one, and what
has become of the sizes of buffers. -/
structure Outcome (line : Nat) (session final : Session) (recorded : Option Command) : Prop where
  commands : final.commands = session.commands ++ recorded.toList
  line : session.words.Level → ∀ command ∈ recorded, command.line = line
  sizes : session.script.Follows (recorded.bind (·.sizeChange? session.words.rest)) final.script

variable {session final : Session} {line : Nat}

theorem Outcome.nothing (commands : final.commands = session.commands)
    (script : final.script = session.script) : Outcome line session final none where
  commands := by rw [commands]; exact (List.append_nil _).symm
  line _ _ member := by cases member
  sizes := script ▸ Script.Settled.refl session.script

theorem Outcome.aside {command : Command}
    (commands : final.commands = session.commands ++ [command])
    (script : final.script = session.script)
    (silent : command.sizeChange? session.words.rest = none)
    (stands : session.words.Level → command.line = line) :
    Outcome line session final (some command) where
  commands := commands
  line level other member := by
    cases member
    exact stands level
  sizes := by
    rw [Option.bind_some, silent, script]
    exact Script.Settled.refl session.script

theorem Outcome.written {head : CommandHead} {write : BufferWrite} {change : SizeChange}
    (commands : final.commands = session.commands ++ [.buffer head write])
    (told : (Command.buffer head write).sizeChange? session.words.rest =
      some (write.buffer, change))
    (changed : session.script.Undergoes write.buffer change final.script)
    (stands : head.line = line) : Outcome line session final (some (.buffer head write)) where
  commands := commands
  line _ command member := by
    cases member
    exact stands
  sizes := by
    rw [Option.bind_some, told]
    exact changed

theorem ProbeAt.line_advance {name : String} {start : Session}
    (position : ProbeAt session name start) (proper : session.words.Proper)
    (isWord : start.words.head.isWord = true) (level : session.words.Level) :
    start.advance.words.line = session.words.line := by
  cases position with
  | plain => exact (level.tail proper (Token.isEnd_of_isWord isWord)).2
  | relative named =>
    obtain ⟨left, same⟩ := level.tail proper (Token.isEnd_of_text named (by decide))
    have further := left.tail (proper.follows session.words.follows_tail)
      (Token.isEnd_of_isWord isWord)
    exact further.2.trans same

theorem ProbeAt.lineOf {name : String} {start : Session} (position : ProbeAt session name start) :
    session.words.lineOf name = session.words.line := by
  cases position <;> rfl

/-- A command that succeeds has recorded one command or none. -/
theorem outcome_of_performed {name : String} (proper : session.words.Proper)
    (performed : Performed session name final) :
    ∃ recorded, Outcome (session.words.lineOf name) session final recorded := by
  have behind (inside : session.words.head.isEnd = false) (level : session.words.Level) :
      session.words.tail.line = session.words.line := (level.tail proper inside).2
  cases performed with
  | rectangle _ _ _ _ isWord _ | arrays isWord _ _ =>
    exact ⟨_, .aside rfl rfl rfl (behind (Token.isEnd_of_isWord isWord))⟩
  | @clear _ command cleared =>
    -- a clear looks at one token before it takes the line
    refine ⟨some command, .aside rfl rfl ?_ fun _ => ?_⟩
    · cases command <;> first | rfl | cases cleared
    · cases command <;> cases cleared <;> rfl
  | storage done =>
    obtain ⟨words, script, write, change, -, rfl, told, changed⟩ := storage_ok proper done
    exact ⟨_, .written rfl told changed rfl⟩
  | uniformBuffer _ _ done =>
    obtain ⟨words, script, write, role, rfl, -, changed⟩ := uniformBuffer_ok done
    exact ⟨_, .written rfl (by simp only [Command.sizeChange?, role]) changed rfl⟩
  | pushConstants _ _ done =>
    obtain ⟨words, script, write, role, rfl, changed⟩ := pushConstants_ok done
    have counted : session.advance.words.rest.length = session.words.rest.length - 1 :=
      session.words.length_tail
    refine ⟨_, .written rfl ?_ changed rfl⟩
    simp only [Command.sizeChange?, role, counted]
    rfl
  | patch _ | compute _ => exact ⟨_, .aside rfl rfl rfl fun _ => rfl⟩
  | probe _ _ position isWord _ =>
    rw [position.lineOf]
    exact ⟨_, .aside rfl rfl rfl (position.line_advance proper isWord)⟩
  | storedProbe position isWord _ done =>
    rw [position.lineOf]
    obtain ⟨words, script, probe, rfl, -, settled⟩ := probeStorage_ok done
    have stands := position.line_advance proper isWord
    obtain ⟨left, rfl⟩ := position.exists_words
    refine ⟨some (.probeStorage _ probe), rfl, fun level command member => ?_, settled⟩
    cases member
    exact stands level
  | tolerance _ _ | setting _ _ => exact ⟨none, .nothing rfl rfl⟩
  | computeEntry _ _ named =>
    exact ⟨_, .aside rfl rfl rfl (behind (Token.isEnd_of_text named (by decide)))⟩
  | stage _ _ _ keyword named =>
    have other : session.words.lineOf name = session.words.line := by
      refine if_neg ?_
      rintro rfl
      exact absurd keyword (by decide)
    rw [other]
    exact ⟨_, .aside rfl rfl rfl (behind (Token.isEnd_of_text named (by decide)))⟩
  | tessellation _ _ _ isWord named =>
    refine ⟨_, .aside rfl rfl rfl fun level => ?_⟩
    obtain ⟨left, same⟩ := level.tail proper (Token.isEnd_of_isWord isWord)
    have further := left.tail (proper.follows session.words.follows_tail)
      (Token.isEnd_of_text named (by decide))
    exact further.2.trans same

/-- The line that the command of a statement takes for its own. -/
def lineOf (statement : Statement) : Nat :=
  (wordsOf statement).lineOf statement.first.token.text

/-- A statement that succeeds has recorded one command or none. -/
theorem execute_ok {statement : Statement} (proper : (wordsOf statement).Proper)
    (done : (execute statement).apply session = (.ok ⟨⟩, final)) :
    ∃ recorded, Outcome (lineOf statement) { session with words := wordsOf statement } final
      recorded := by
  exact outcome_of_performed proper (performed_of_execute done).2

end Session

end GpuScript
