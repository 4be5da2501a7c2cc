import GpuScript.Proofs.Section.Commands

namespace GpuScript

namespace Session

theorem apply_execute (statement : Statement) (session : Session) :
    (execute statement).apply session =
      (((perform statement).apply session).1.mapError (·.atLine statement.first.line),
        ((perform statement).apply session).2) := by
  rw [execute, Edit.apply_tryCatch]
  rcases (perform statement).apply session with ⟨outcome, after⟩
  cases outcome <;> rfl

private theorem execute_words (statement : Statement) (session : Session) (words : Words) :
    (execute statement).apply { session with words } = (execute statement).apply session := rfl

theorem execute_shadow (statement : Statement) (session : Session) (state : RasterState)
    (earlier : List Command) :
    (execute statement).apply (session.shadow state earlier) =
      (((execute statement).apply session).1,
        ((execute statement).apply session).2.shadow state earlier) := by
  rw [apply_execute, apply_execute, (steady_perform statement).blind, map_id]

/-- A statement that fails has recorded nothing and changed no state, and its fault is tied to the
line after its first token. -/
theorem execute_error {statement : Statement} {session after : Session} {fault : Fault}
    (failed : (execute statement).apply session = (.error fault, after)) :
    (∃ cause, cause.isLocated = false ∧ fault = .located statement.first.line cause) ∧
      after.commands = session.commands ∧ after.state = session.state := by
  have plain := (steady_perform statement).plain session
  have rollback := (steady_perform statement).rollback session
  rw [apply_execute] at failed
  cases performed : ((perform statement).apply session).1 with
  | ok =>
    rw [performed] at failed
    cases failed
  | error cause =>
    rw [performed] at failed
    obtain ⟨same, rfl⟩ := Prod.mk.inj failed
    have unlocated := plain cause performed
    refine ⟨⟨cause, unlocated, ?_⟩, rollback cause performed⟩
    rw [← Fault.atLine_of_plain unlocated]
    exact (Except.error.inj same).symm

private theorem execute_pipelineId (statement : Statement) (session : Session) :
    ((execute statement).apply session).2.pipelineId = session.pipelineId := by
  rw [apply_execute]
  exact (steady_perform statement).pipelineId session

private theorem execute_stored (statement : Statement) (session : Session) (id : Id Pipeline) :
    ((execute statement).apply session).2.script.stateAt? id = session.script.stateAt? id := by
  rw [apply_execute]
  exact (steady_perform statement).stored session id

private theorem execute_tolerances {statement : Statement}
    (keeps : statement.first.token ≠ .word "tolerance") (session : Session) :
    ((execute statement).apply session).2.tolerances = session.tolerances := by
  rw [apply_execute]
  exact (steady_perform statement).tolerances keeps session

abbrev executeAll (statements : List Statement) : Edit Session Unit := statements.forM execute

theorem apply_executeAll_cons (statement : Statement) (later : List Statement)
    (session : Session) :
    (executeAll (statement :: later)).apply session =
      match (execute statement).apply session with
      | (.ok _, after) => (executeAll later).apply after
      | (.error fault, after) => (.error fault, after) := by
  change (execute statement >>= fun _ => executeAll later).apply session = _
  rw [Edit.apply_bind]
  rcases (execute statement).apply session with ⟨outcome, after⟩
  cases outcome <;> rfl

theorem apply_executeAll_append (earlier later : List Statement) (session : Session) :
    (executeAll (earlier ++ later)).apply session =
      match (executeAll earlier).apply session with
      | (.ok _, after) => (executeAll later).apply after
      | (.error fault, after) => (.error fault, after) := by
  induction earlier generalizing session with
  | nil => rfl
  | cons statement earlier ih =>
    rw [List.cons_append, apply_executeAll_cons, apply_executeAll_cons]
    rcases (execute statement).apply session with ⟨outcome, after⟩
    cases outcome with
    | ok => exact ih after
    | error fault => rfl

theorem executeAll_cons_ok {statement : Statement} {later : List Statement}
    {session final : Session} :
    (executeAll (statement :: later)).apply session = (.ok ⟨⟩, final) ↔
      ∃ between, (execute statement).apply session = (.ok ⟨⟩, between) ∧
        (executeAll later).apply between = (.ok ⟨⟩, final) := by
  constructor
  · intro done
    obtain ⟨_, between, first, rest⟩ := Edit.bind_ok.mp done
    exact ⟨between, first, rest⟩
  · rintro ⟨between, first, rest⟩
    exact Edit.bind_ok.mpr ⟨⟨⟩, between, first, rest⟩

theorem executeAll_append_ok {earlier later : List Statement} {session final : Session} :
    (executeAll (earlier ++ later)).apply session = (.ok ⟨⟩, final) ↔
      ∃ between, (executeAll earlier).apply session = (.ok ⟨⟩, between) ∧
        (executeAll later).apply between = (.ok ⟨⟩, final) := by
  induction earlier generalizing session with
  | nil =>
    refine ⟨fun done => ⟨session, rfl, done⟩, fun ⟨_, same, done⟩ => ?_⟩
    cases same
    exact done
  | cons statement earlier ih =>
    simp only [List.cons_append, executeAll_cons_ok, ih]
    exact ⟨fun ⟨first, ran, between, rest, done⟩ => ⟨between, ⟨first, ran, rest⟩, done⟩,
      fun ⟨between, ⟨first, ran, rest⟩, done⟩ => ⟨first, ran, between, rest, done⟩⟩

/-- What holds between the sessions of each step that succeeds holds between those of a run. -/
theorem executeAll_chain (relates : Session → Session → Prop) {statements : List Statement}
    (refl : ∀ session, relates session session)
    (trans : ∀ {first next last}, relates first next → relates next last → relates first last)
    (step : ∀ statement ∈ statements, ∀ {before after},
      (execute statement).apply before = (.ok ⟨⟩, after) → relates before after)
    {session final : Session} (done : (executeAll statements).apply session = (.ok ⟨⟩, final)) :
    relates session final := by
  induction statements generalizing session with
  | nil =>
    cases done
    exact refl _
  | cons statement later ih =>
    obtain ⟨between, first, rest⟩ := executeAll_cons_ok.mp done
    exact trans (step statement List.mem_cons_self first)
      (ih (fun other member => step other (List.mem_cons_of_mem _ member)) rest)

theorem executeAll_shadow (statements : List Statement) (session : Session) (state : RasterState)
    (earlier : List Command) :
    (executeAll statements).apply (session.shadow state earlier) =
      (((executeAll statements).apply session).1,
        ((executeAll statements).apply session).2.shadow state earlier) := by
  induction statements generalizing session with
  | nil => rfl
  | cons statement later ih =>
    rw [apply_executeAll_cons, apply_executeAll_cons, execute_shadow]
    rcases (execute statement).apply session with ⟨outcome, after⟩
    cases outcome with
    | ok => exact ih after
    | error fault => rfl

theorem executeAll_words (statements : List Statement) (session : Session) (words : Words) :
    ∃ rest, (executeAll statements).apply { session with words } =
      (((executeAll statements).apply session).1,
        { ((executeAll statements).apply session).2 with words := rest }) := by
  cases statements with
  | nil => exact ⟨words, rfl⟩
  | cons statement later =>
    refine ⟨((executeAll (statement :: later)).apply session).2.words, ?_⟩
    rw [apply_executeAll_cons, execute_words, ← apply_executeAll_cons]

theorem executeAll_keeps {Value : Type} (view : Session → Value) {statements : List Statement}
    (keeps : ∀ statement ∈ statements, ∀ session,
      view ((execute statement).apply session).2 = view session) (session : Session) :
    view ((executeAll statements).apply session).2 = view session := by
  induction statements generalizing session with
  | nil => rfl
  | cons statement later ih =>
    have first := keeps statement List.mem_cons_self session
    rw [apply_executeAll_cons]
    split <;> rename_i found <;> rw [found] at first
    · exact (ih (fun other member => keeps other (List.mem_cons_of_mem _ member)) _).trans first
    · exact first

theorem executeAll_pipelineId (statements : List Statement) (session : Session) :
    ((executeAll statements).apply session).2.pipelineId = session.pipelineId :=
  executeAll_keeps Session.pipelineId (fun statement _ => execute_pipelineId statement) session

theorem executeAll_stored (statements : List Statement) (session : Session) (id : Id Pipeline) :
    ((executeAll statements).apply session).2.script.stateAt? id = session.script.stateAt? id :=
  executeAll_keeps (·.script.stateAt? id)
    (fun statement _ session => execute_stored statement session id) session

theorem executeAll_tolerances {statements : List Statement}
    (keeps : ∀ statement ∈ statements, statement.first.token ≠ .word "tolerance")
    (session : Session) :
    ((executeAll statements).apply session).2.tolerances = session.tolerances :=
  executeAll_keeps Session.tolerances
    (fun statement member => execute_tolerances (keeps statement member)) session

/-- A run that fails does so at one of its statements, after those before it have succeeded. -/
theorem executeAll_error {statements : List Statement} {session after : Session} {fault : Fault}
    (failed : (executeAll statements).apply session = (.error fault, after)) :
    ∃ earlier statement later reached, statements = earlier ++ statement :: later ∧
      (executeAll earlier).apply session = (.ok ⟨⟩, reached) ∧
      (execute statement).apply reached = (.error fault, after) := by
  induction statements generalizing session with
  | nil => cases failed
  | cons statement later ih =>
    rw [apply_executeAll_cons] at failed
    split at failed
    · rename_i reached found
      obtain ⟨earlier, failing, rest, last, parted, done, stopped⟩ := ih failed
      refine ⟨statement :: earlier, failing, rest, last, by rw [parted]; rfl, ?_, stopped⟩
      rw [apply_executeAll_cons, found]
      exact done
    · rename_i found
      cases failed
      exact ⟨[], statement, later, session, rfl, rfl, found⟩

def committed (session : Session) : Session :=
  { session with script := session.script.withState session.pipelineId session.state }

private theorem apply_commit {session : Session}
    (valid : (session.script.stateAt? session.pipelineId).isSome) :
    commit.apply session = (.ok ⟨⟩, session.committed) := by
  obtain ⟨pipeline, found⟩ := Option.isSome_iff_exists.mp (Option.isSome_map ▸ valid)
  have seen : Session.pipeline.apply session = (.ok pipeline, session) := by
    rw [apply_pipeline, found]
  rw [commit, Edit.apply_bind_of_ok seen, Edit.apply_bind_of_ok (Edit.apply_get session),
    apply_changePipeline, found]
  rfl

/-- How a section ends after its statements: when they have succeeded it is committed. -/
def close : Except Fault Unit × Session → Except Fault Unit × Session
  | (.ok _, after) => (.ok ⟨⟩, after.committed)
  | (.error fault, after) => (.error fault, after)

theorem close_fst (ran : Except Fault Unit × Session) : (close ran).1 = ran.1 := by
  rcases ran with ⟨outcome, after⟩
  cases outcome <;> rfl

theorem close_of_ok {ran : Except Fault Unit × Session} (done : ran.1 = .ok ⟨⟩) :
    (close ran).2 = ran.2.committed := by
  rcases ran with ⟨outcome, after⟩
  cases done
  rfl

theorem apply_run (text : String) (line : Nat) (session : Session) :
    (run text line).apply session =
      match (executeAll (Statement.ofText text line)).apply session with
      | (.ok _, after) => commit.apply after
      | (.error fault, after) => (.error fault, after) := by
  rw [run, Edit.apply_bind]
  rcases (executeAll (Statement.ofText text line)).apply session with ⟨outcome, after⟩
  cases outcome <;> rfl

end Session

namespace Script

open Session

theorem stateAt?_start {script : Script} {id : Id Pipeline}
    (valid : (script.pipelines.get? id).isSome) :
    script.stateAt? id = some (start script id).state := by
  obtain ⟨pipeline, found⟩ := Option.isSome_iff_exists.mp valid
  simp only [stateAt?, start, found, Option.map_some, Option.getD_some]

def sessionAfter (script : Script) (id : Id Pipeline) (statements : List Statement) : Session :=
  ((executeAll statements).apply (start script id)).2

/-- Reading a section for a pipeline that exists fails only where a statement does. -/
theorem readSection_eq {script : Script} {id : Id Pipeline}
    (valid : (script.pipelines.get? id).isSome) (line : Nat) (text : String) :
    script.readSection id line text =
      close ((executeAll (Statement.ofText text line)).apply (start script id)) := by
  have here := executeAll_pipelineId (Statement.ofText text line) (start script id)
  have stored := executeAll_stored (Statement.ofText text line) (start script id) id
  rw [readSection, apply_run]
  split <;> rename_i found <;> rw [found]
  · rw [found] at here stored
    have state := stateAt?_start valid
    apply apply_commit
    rw [here]
    change (Script.stateAt? _ id).isSome = true
    rw [stored]
    change (script.stateAt? id).isSome = true
    rw [state]
    rfl
  · rfl

theorem isSome_of_readSection {script : Script} {id : Id Pipeline} {line : Nat} {text : String}
    (done : (script.readSection id line text).1 = .ok ⟨⟩) : (script.pipelines.get? id).isSome := by
  have here := executeAll_pipelineId (Statement.ofText text line) (start script id)
  have stored := executeAll_stored (Statement.ofText text line) (start script id) id
  rw [readSection, apply_run] at done
  split at done
  · rename_i after found
    rw [found] at here stored
    cases present : after.script.pipelines.get? id with
    | some pipeline =>
      have state : script.stateAt? id = some pipeline.state := by
        rw [← show after.script.stateAt? id = script.stateAt? id from stored, stateAt?, present]
        rfl
      have valid : (script.stateAt? id).isSome := by
        rw [state]
        rfl
      exact Option.isSome_map ▸ valid
    | none =>
      have missing : Session.pipeline.apply after =
          (.error (.pipeline (.unknownPipeline after.pipelineId.index)), after) := by
        rw [apply_pipeline, show after.pipelineId = id from here, present]
      rw [commit, Edit.apply_bind_of_error missing] at done
      cases done
  · cases done

/-- A section that is read to its end has run all of its statements and stored the state. -/
theorem readSection_ok {script : Script} {id : Id Pipeline} {line : Nat} {text : String}
    (done : (script.readSection id line text).1 = .ok ⟨⟩) :
    ∃ reached, (executeAll (Statement.ofText text line)).apply (start script id) =
      (.ok ⟨⟩, reached) ∧ (script.readSection id line text).2 = reached.committed := by
  have valid := isSome_of_readSection done
  rw [readSection_eq valid] at done ⊢
  cases found : (executeAll (Statement.ofText text line)).apply (start script id) with
  | mk outcome reached =>
    rw [found] at done
    cases outcome with
    | ok => exact ⟨reached, rfl, rfl⟩
    | error fault => cases done

/-- A section that is read to its end has run each of its statements in the session after those
before it, and then the later ones. -/
theorem readSection_step {script : Script} {id : Id Pipeline} {line : Nat} {text : String}
    (done : (script.readSection id line text).1 = .ok ⟨⟩) {earlier later : List Statement}
    {statement : Statement} (parted : Statement.ofText text line = earlier ++ statement :: later) :
    (execute statement).apply (script.sessionAfter id earlier) =
        (.ok ⟨⟩, script.sessionAfter id (earlier ++ [statement])) ∧
      ∃ reached, (executeAll later).apply (script.sessionAfter id (earlier ++ [statement])) =
          (.ok ⟨⟩, reached) ∧ (script.readSection id line text).2 = reached.committed := by
  obtain ⟨reached, ran, left⟩ := readSection_ok done
  rw [parted, executeAll_append_ok] at ran
  obtain ⟨before, opening, rest⟩ := ran
  obtain ⟨after, step, rest⟩ := executeAll_cons_ok.mp rest
  have here : script.sessionAfter id earlier = before := congrArg Prod.snd opening
  have behind : script.sessionAfter id (earlier ++ [statement]) = after := congrArg Prod.snd
    (executeAll_append_ok.mpr ⟨before, opening, executeAll_cons_ok.mpr ⟨after, step, rfl⟩⟩)
  rw [here, behind]
  exact ⟨step, reached, rest, left⟩

theorem isSome_get?_of_stateAt? {script : Script} {id : Id Pipeline}
    (valid : (script.stateAt? id).isSome) : (script.pipelines.get? id).isSome :=
  Option.isSome_map ▸ valid

theorem stateAt?_committed {session : Session} {id : Id Pipeline}
    (here : session.pipelineId = id) (valid : (session.script.stateAt? id).isSome) :
    session.committed.script.stateAt? id = some session.state := by
  subst here
  obtain ⟨pipeline, found⟩ := Option.isSome_iff_exists.mp (isSome_get?_of_stateAt? valid)
  rw [committed, stateAt?, withState, get?_mapPipeline, if_pos rfl, found]
  rfl

end Script

end GpuScript
