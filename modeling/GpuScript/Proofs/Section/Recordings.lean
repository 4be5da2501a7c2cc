import GpuScript.Proofs.Section.Outcomes

namespace GpuScript

/-- A command and the statement that it was recorded for. -/
structure Recording where
  statement : Statement
  command : Command

namespace Recording

/-- The buffer that is changed in size and how. -/
def change? (recording : Recording) : Option (Id Buffer × SizeChange) :=
  recording.command.sizeChange? recording.statement.others

/-- The changes of the sizes of one buffer, in order. -/
def changesAt (id : Id Buffer) (history : List Recording) : List SizeChange :=
  history.filterMap fun recording =>
    recording.change?.bind fun change => if change.1 = id then some change.2 else none

theorem changesAt_append (id : Id Buffer) (earlier later : List Recording) :
    changesAt id (earlier ++ later) = changesAt id earlier ++ changesAt id later :=
  List.filterMap_append

end Recording

namespace Script

open Recording (changesAt)

/-- One script has become another through a history: its changes, replayed in order, give the sizes
of each buffer, and a buffer has the format that its writes had. -/
structure Replays (history : List Recording) (before after : Script) : Prop where
  given : ∀ id, (before.formatOf? id).isSome ∨ changesAt id history ≠ [] →
    (after.formatOf? id).isSome
  own : ∀ id format, before.ownFormat? id = some format → after.ownFormat? id = some format
  registered : ∀ id format, before.formats.get? id = some format →
    after.formats.get? id = some format
  aligned : ∀ id, ∀ change ∈ changesAt id history, change.isWrite = true →
    ∃ format, after.ownFormat? id = some format ∧ change.Aligned format
  sizes : ∀ id format,
    (∀ change ∈ changesAt id history, change.isWrite = true →
      after.ownFormat? id = some format) →
    after.sizes id =
      (changesAt id history).foldl (fun sizes change => change.apply format sizes) (before.sizes id)

theorem Settled.replays {before after : Script} (settled : Settled before after) :
    Replays [] before after where
  given id told := settled.given id (told.resolve_right fun some => some rfl)
  own := settled.own
  registered := settled.registered
  aligned _ _ member := by cases member
  sizes id _ _ := settled.sizes id

theorem Replays.append {earlier later : List Recording} {before between after : Script}
    (left : Replays earlier before between) (right : Replays later between after) :
    Replays (earlier ++ later) before after where
  given id told := by
    rw [Recording.changesAt_append] at told
    apply right.given
    by_cases quiet : changesAt id later = []
    · refine .inl (left.given id (told.imp_right fun some none => some ?_))
      rw [none, quiet]
      rfl
    · exact .inr quiet
  own id format own := right.own id format (left.own id format own)
  registered id format kept := right.registered id format (left.registered id format kept)
  aligned id change member writes := by
    rw [Recording.changesAt_append] at member
    rcases List.mem_append.mp member with old | new
    · obtain ⟨format, own, aligned⟩ := left.aligned id change old writes
      exact ⟨format, right.own id format own, aligned⟩
    · exact right.aligned id change new writes
  sizes id format own := by
    rw [Recording.changesAt_append] at own ⊢
    have ownLater : ∀ change ∈ changesAt id later, change.isWrite = true →
        after.ownFormat? id = some format :=
      fun change member => own change (List.mem_append_right _ member)
    have ownEarlier : ∀ change ∈ changesAt id earlier, change.isWrite = true →
        between.ownFormat? id = some format := by
      intro change member writes
      obtain ⟨other, present, -⟩ := left.aligned id change member writes
      have kept := right.own id other present
      rw [own change (List.mem_append_left _ member) writes] at kept
      rwa [Option.some.inj kept]
    rw [right.sizes id format ownLater, left.sizes id format ownEarlier, List.foldl_append]

theorem Follows.replays {recording : Recording} {before after : Script}
    (follows : Follows recording.change? before after) : Replays [recording] before after := by
  cases told : recording.change? with
  | none =>
    rw [told] at follows
    have quiet (id : Id Buffer) : changesAt id [recording] = [] := by simp [changesAt, told]
    refine ⟨fun id given => follows.given id (given.resolve_right fun some => some (quiet id)),
      follows.own, follows.registered, fun id change member => ?_, fun id format _ => ?_⟩
    · rw [quiet] at member
      cases member
    · rw [quiet]
      exact follows.sizes id
  | some target =>
    obtain ⟨target, change⟩ := target
    rw [told] at follows
    obtain ⟨format, evolves⟩ := follows.exists_evolves
    have here : changesAt target [recording] = [change] := by simp [changesAt, told]
    have elsewhere {id : Id Buffer} (apart : id ≠ target) : changesAt id [recording] = [] := by
      simp [changesAt, told, Ne.symm apart]
    refine ⟨fun id given => ?_, evolves.own, evolves.registered,
      fun id other member writes => ?_, fun id other own => ?_⟩
    · by_cases same : id = target
      · subst id
        exact follows.given
      · exact evolves.given id (given.resolve_right fun some => some (elsewhere same))
    · by_cases same : id = target
      · subst id
        rw [here, List.mem_singleton] at member
        subst other
        exact follows.own writes
      · rw [elsewhere same] at member
        cases member
    · by_cases same : id = target
      · subst id
        rw [here] at own ⊢
        rw [(follows.evolves other (own change (List.mem_singleton_self change))).sizes, only,
          if_pos rfl]
        rfl
      · rw [elsewhere same, evolves.sizes, only, if_neg same]
        rfl

end Script

namespace Statement

theorem proper_of_mem {lexemes : List Cursor.Lexeme} {statement : Statement}
    (member : statement ∈ ofLexemes lexemes) : (Session.wordsOf statement).Proper := by
  induction lexemes using lexemes_induction with
  | nil =>
    rw [ofLexemes] at member
    cases member
  | blank first rest ended ih =>
    rw [ofLexemes_end ended] at member
    exact ih member
  | closed first others closing later solid inside ended ih =>
    rw [ofLexemes_closed solid inside ended] at member
    rcases List.mem_cons.mp member with rfl | member
    · exact ⟨ended, inside⟩
    · exact ih member
  | unclosed first others solid inside =>
    rw [ofLexemes_unclosed solid inside, List.mem_singleton] at member
    subst statement
    exact ⟨rfl, inside⟩

end Statement

namespace Session

/-- The commands that statements record from a session on, each with its statement. -/
def recordings : List Statement → Session → List Recording
  | [], _ => []
  | statement :: later, session =>
    let after := ((execute statement).apply session).2
    (after.commands.drop session.commands.length).map (⟨statement, ·⟩) ++ recordings later after

/-- What a run that succeeds has recorded for its statements is its history. -/
theorem executeAll_ok {statements : List Statement} {session final : Session}
    (proper : ∀ statement ∈ statements, (wordsOf statement).Proper)
    (done : (executeAll statements).apply session = (.ok ⟨⟩, final)) :
    final.commands = session.commands ++ (recordings statements session).map (·.command) ∧
      (∀ recording ∈ recordings statements session, recording.statement ∈ statements ∧
        ((wordsOf recording.statement).Level →
          recording.command.line = lineOf recording.statement)) ∧
      session.script.Replays (recordings statements session) final.script := by
  induction statements generalizing session with
  | nil =>
    cases done
    exact ⟨(List.append_nil _).symm, fun _ member => (by cases member),
      (Script.Settled.refl _).replays⟩
  | cons statement later ih =>
    rw [apply_executeAll_cons] at done
    split at done
    · rename_i after ran
      obtain ⟨recorded, outcome⟩ := execute_ok (proper statement List.mem_cons_self) ran
      obtain ⟨commands, stand, replays⟩ := ih
        (fun other member => proper other (List.mem_cons_of_mem _ member)) done
      have fresh : recordings (statement :: later) session =
          recorded.toList.map (⟨statement, ·⟩) ++ recordings later after := by
        rw [recordings, ran]
        dsimp only
        rw [outcome.commands, List.drop_left]
      rw [fresh]
      refine ⟨?_, fun recording member => ?_, ?_⟩
      · have now : (recorded.toList.map (Recording.mk statement)).map (·.command) =
            recorded.toList := by
          cases recorded <;> rfl
        rw [commands, outcome.commands, List.map_append, now, List.append_assoc]
      · rcases List.mem_append.mp member with now | next
        · obtain ⟨command, told, rfl⟩ := List.mem_map.mp now
          exact ⟨List.mem_cons_self,
            fun level => outcome.line level command (Option.mem_toList.mp told)⟩
        · exact ⟨List.mem_cons_of_mem _ (stand recording next).1, (stand recording next).2⟩
      · refine Script.Replays.append ?_ replays
        have sizes := outcome.sizes
        cases recorded with
        | none => exact Script.Settled.replays sizes
        | some command => exact Script.Follows.replays sizes
    · cases done

end Session

namespace Script

def recordings (script : Script) (id : Id Pipeline) (line : Nat) (text : String) :
    List Recording :=
  Session.recordings (Statement.ofText text line) (Session.start script id)

variable {script : Script} {id : Id Pipeline} {line : Nat} {text : String}

/-- The history of a section that is read to its end has all of its commands. -/
theorem readSection_commands (done : (script.readSection id line text).1 = .ok ⟨⟩) :
    (script.readSection id line text).2.commands =
      (script.recordings id line text).map (·.command) := by
  obtain ⟨reached, ran, left⟩ := readSection_ok done
  rw [left]
  exact (Session.executeAll_ok (fun _ => Statement.proper_of_mem) ran).1

/-- The history of a section that is read to its end is one of its statements. -/
theorem readSection_stand (done : (script.readSection id line text).1 = .ok ⟨⟩)
    {recording : Recording} (member : recording ∈ script.recordings id line text) :
    recording.statement ∈ Statement.ofText text line ∧
      ((Session.wordsOf recording.statement).Level →
        recording.command.line = Session.lineOf recording.statement) := by
  obtain ⟨reached, ran, -⟩ := readSection_ok done
  exact (Session.executeAll_ok (fun _ => Statement.proper_of_mem) ran).2.1 recording member

/-- The sizes of buffers come of the history of a section that is read to its end. -/
theorem readSection_replays (done : (script.readSection id line text).1 = .ok ⟨⟩) :
    script.Replays (script.recordings id line text) (script.readSection id line text).2.script := by
  obtain ⟨reached, ran, left⟩ := readSection_ok done
  have replays := (Session.executeAll_ok (fun _ => Statement.proper_of_mem) ran).2.2
  rw [left]
  exact ⟨replays.given, replays.own, replays.registered, replays.aligned, replays.sizes⟩

end Script

end GpuScript
