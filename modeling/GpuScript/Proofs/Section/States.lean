import GpuScript.Proofs.Section.Recordings
import GpuScript.Proofs.Section.Settings
import GpuScript.Section.Run

namespace GpuScript

namespace Statement

/-- The change of state that a statement asks for, if its keyword names a field. -/
def change? (statement : Statement) : Option FieldChange :=
  FieldChange.of? statement.first.token.text (Session.wordsOf statement).tokens

def isDraw (statement : Statement) : Bool := statement.first.token.text == "draw"

/-- The statements before each draw, draw by draw. -/
def beforeDraws : List Statement → List (List Statement)
  | [] => []
  | statement :: later =>
    let rest := (beforeDraws later).map (statement :: ·)
    if statement.isDraw then [] :: rest else rest

/-- The keywords of commands that are no state commands. -/
private def commandKeywords : List String :=
  ["draw", "clear", "compute", "ssbo", "uniform", "probe", "relative", "tolerance", "vertex",
    "fragment", "geometry", "tessellation"]

end Statement

/-- The state that a draw of a section takes. -/
def Command.drawState? : Command → Option RasterState
  | .drawRect _ state _ _ _ | .drawArrays _ state _ => some state
  | _ => none

namespace RasterState

/-- The state after statements: the changes that they ask for are made from the left. -/
def after (state : RasterState) (statements : List Statement) : RasterState :=
  (statements.filterMap Statement.change?).foldl change state

theorem after_cons (state : RasterState) (statement : Statement) (later : List Statement) :
    state.after (statement :: later) = (state.after [statement]).after later := by
  simp only [after]
  rw [← List.foldl_append, ← List.filterMap_append]
  rfl

end RasterState

namespace Session

variable {session final : Session}

/-- A command leaves the state with the change that its keyword asks for, if any, and records the
state that it found if it is a draw. -/
private structure Stated (name : String) (before after : Session) : Prop where
  state : after.state =
    (FieldChange.of? name before.words.tokens).toList.foldl RasterState.change before.state
  draws : after.commands.filterMap Command.drawState? =
    before.commands.filterMap Command.drawState? ++ if name = "draw" then [before.state] else []
  changes : (RasterField.ofKeyword? name).isSome →
    (FieldChange.of? name before.words.tokens).isSome

private theorem Stated.aside {name : String} {commands : List Command}
    (unnamed : RasterField.ofKeyword? name = none) (other : name ≠ "draw")
    (state : final.state = session.state)
    (recorded : final.commands = session.commands ++ commands)
    (silent : commands.filterMap Command.drawState? = []) : Stated name session final where
  state := by
    rw [FieldChange.of?, unnamed, state]
    rfl
  draws := by rw [recorded, List.filterMap_append, silent, if_neg other]
  changes named := by
    rw [unnamed] at named
    cases named

private theorem stated_of_performed {name : String} (proper : session.words.Proper)
    (performed : Performed session name final) : Stated name session final := by
  cases performed with
  | rectangle | arrays => exact ⟨rfl, List.filterMap_append, nofun⟩
  | @clear _ command cleared =>
    refine .aside rfl (by decide) rfl rfl ?_
    cases command <;> first | rfl | cases cleared
  | storage done =>
    obtain ⟨words, script, write, change, -, rfl, -⟩ := storage_ok proper done
    exact .aside rfl (by decide) rfl rfl rfl
  | uniformBuffer _ _ done =>
    obtain ⟨words, script, write, -, rfl, -⟩ := uniformBuffer_ok done
    exact .aside rfl (by decide) rfl rfl rfl
  | pushConstants _ _ done =>
    obtain ⟨words, script, write, -, rfl, -⟩ := pushConstants_ok done
    exact .aside rfl (by decide) rfl rfl rfl
  | patch reading =>
    obtain ⟨parameter, vertices, number, tokens, first, second, isInteger, rfl⟩ :=
      Reader.patchVertexCount_ok proper reading
    have told : FieldChange.of? "patch" session.words.tokens =
        some ⟨.patchControlPoints, number.low⟩ := by
      rw [tokens]
      exact congrArg (Option.map _) (if_pos ⟨first, second, isInteger⟩)
    refine ⟨?_, List.filterMap_append, fun _ => ?_⟩
    · rw [told]
      rfl
    · rw [told]
      rfl
  | probe _ _ position => cases position <;> exact .aside rfl (by decide) rfl rfl rfl
  | storedProbe position _ _ done =>
    obtain ⟨words, script, probe, rfl, -⟩ := probeStorage_ok done
    cases position <;> exact .aside rfl (by decide) rfl rfl rfl
  | tolerance => exact .aside rfl (by decide) rfl (List.append_nil _).symm rfl
  | compute | computeEntry | tessellation => exact .aside rfl (by decide) rfl rfl rfl
  | stage _ _ _ keyword => fin_cases keyword <;> exact .aside rfl (by decide) rfl rfl rfl
  | setting known reading =>
    obtain ⟨changed, told, changes⟩ := Setting.readsField_reader? name _ known proper reading
    have other : name ≠ "draw" := by
      rintro rfl
      cases told
    refine ⟨?_, ?_, fun _ => ?_⟩
    · rw [told]
      exact changes session.state
    · rw [if_neg other, List.append_nil]
    · rw [told]
      rfl

/-- A statement leaves the state that is after it, and records the state that it found if it is a
draw. -/
theorem stated_of_execute {statement : Statement} (proper : (wordsOf statement).Proper)
    (done : (execute statement).apply session = (.ok ⟨⟩, final)) :
    final.state = session.state.after [statement] ∧
      final.commands.filterMap Command.drawState? =
        session.commands.filterMap Command.drawState? ++
          (if statement.isDraw then [session.state] else []) ∧
      ((RasterField.ofKeyword? statement.first.token.text).isSome → statement.change?.isSome) := by
  have stated := stated_of_performed proper (performed_of_execute done).2
  refine ⟨?_, ?_, stated.changes⟩
  · have one : [statement].filterMap Statement.change? = statement.change?.toList := by
      cases found : statement.change? <;> simp [found]
    rw [stated.state, RasterState.after, one]
    rfl
  · rw [stated.draws, Statement.isDraw]
    simp only [beq_iff_eq]

/-- A run leaves the state that is after its statements, and its draws have taken the state after
those before them. -/
theorem stated_of_executeAll {statements : List Statement}
    (proper : ∀ statement ∈ statements, (wordsOf statement).Proper)
    (done : (executeAll statements).apply session = (.ok ⟨⟩, final)) :
    final.state = session.state.after statements ∧
      final.commands.filterMap Command.drawState? =
        session.commands.filterMap Command.drawState? ++
          (Statement.beforeDraws statements).map session.state.after ∧
      ∀ statement ∈ statements, (RasterField.ofKeyword? statement.first.token.text).isSome →
        statement.change?.isSome := by
  induction statements generalizing session with
  | nil =>
    cases done
    exact ⟨rfl, (List.append_nil _).symm, nofun⟩
  | cons statement later ih =>
    obtain ⟨between, first, rest⟩ := executeAll_cons_ok.mp done
    obtain ⟨state, draws, changes⟩ := stated_of_execute (proper statement List.mem_cons_self) first
    obtain ⟨lastState, lastDraws, lastChanges⟩ :=
      ih (fun other member => proper other (List.mem_cons_of_mem _ member)) rest
    have behind : (Statement.beforeDraws later).map between.state.after =
        ((Statement.beforeDraws later).map (statement :: ·)).map session.state.after := by
      rw [List.map_map, state]
      exact List.map_congr_left fun before _ => (RasterState.after_cons ..).symm
    refine ⟨?_, ?_, fun other member => ?_⟩
    · rw [lastState, state, ← RasterState.after_cons]
    · rw [lastDraws, draws, behind, List.append_assoc, Statement.beforeDraws]
      split <;> rfl
    · rcases List.mem_cons.mp member with rfl | next
      · exact changes
      · exact lastChanges other next

/-- A statement whose keyword names no field leaves the state alone, whether it succeeds or not. -/
theorem execute_state {statement : Statement} (proper : (wordsOf statement).Proper)
    (unnamed : RasterField.ofKeyword? statement.first.token.text = none) (session : Session) :
    ((execute statement).apply session).2.state = session.state := by
  cases ran : (execute statement).apply session with
  | mk outcome after =>
    cases outcome with
    | ok =>
      rw [(stated_of_execute proper ran).1, RasterState.after, List.filterMap_cons,
        Statement.change?, FieldChange.of?, unnamed]
      rfl
    | error fault => exact (execute_error ran).2.2

end Session

namespace Script

open Session

/-- After a section that is read to its end the state, which is stored too, is what its state
commands make of the stored one from before, field by field in their order. Each draw has recorded
what those before it make of it. All state commands have had their say, and no other command changes
the state, whatever session it finds. -/
theorem readSection_state {script : Script} {id : Id Pipeline} {line : Nat} {text : String}
    (done : (script.readSection id line text).1 = .ok ⟨⟩) :
    let statements := Statement.ofText text line
    let final := (script.readSection id line text).2
    ∃ initial, script.stateAt? id = some initial ∧
      final.state = initial.after statements ∧
      final.script.stateAt? id = some (initial.after statements) ∧
      final.commands.filterMap Command.drawState? =
        (Statement.beforeDraws statements).map initial.after ∧
      (∀ statement ∈ statements, (RasterField.ofKeyword? statement.first.token.text).isSome →
        statement.change?.isSome) ∧
      ∀ statement ∈ statements, statement.first.token.text ∈ Statement.commandKeywords →
        ∀ session, ((execute statement).apply session).2.state = session.state := by
  intro statements final
  have valid := isSome_of_readSection done
  obtain ⟨reached, ran, left⟩ := readSection_ok done
  have proper : ∀ statement ∈ statements, (wordsOf statement).Proper :=
    fun _ => Statement.proper_of_mem
  obtain ⟨state, draws, changes⟩ := stated_of_executeAll proper ran
  have committed : final = reached.committed := left
  have here : reached.pipelineId = id := by
    have kept := executeAll_pipelineId statements (start script id)
    rw [ran] at kept
    exact kept
  have stored : (reached.script.stateAt? id).isSome := by
    have kept := executeAll_stored statements (start script id) id
    rw [ran] at kept
    rw [show reached.script.stateAt? id = script.stateAt? id from kept, stateAt?_start valid]
    rfl
  refine ⟨(start script id).state, stateAt?_start valid, ?_, ?_, ?_, changes,
    fun statement member other => execute_state (proper statement member) ?_⟩
  · rw [committed]
    exact state
  · rw [committed, stateAt?_committed here stored, state]
  · rw [committed]
    exact draws
  · have unnamed : ∀ keyword ∈ Statement.commandKeywords,
        RasterField.ofKeyword? keyword = none := by decide
    exact unnamed _ other

/-- A draw takes the line width from before it and not the one from behind. -/
theorem readSection_state_draw :
    let script := (SectionTarget.graphics 8 8).script
    let text := "lineWidth 2.0\ndraw rect 0 0 1 1\nblendEnable true\nlineWidth 3.0\n"
    let final := (script.readSection ⟨0⟩ 1 text).2
    (script.readSection ⟨0⟩ 1 text).1 = .ok ⟨⟩ ∧
      ∃ initial, script.stateAt? ⟨0⟩ = some initial ∧
        final.state = initial.after (Statement.ofText text 1) ∧
        final.commands.filterMap Command.drawState? =
          [initial.after ((Statement.ofText text 1).take 1)] := by
  intro script text final
  have done : (script.readSection ⟨0⟩ 1 text).1 = .ok ⟨⟩ := by decide +kernel
  obtain ⟨initial, stored, state, -, draws, -⟩ := readSection_state done
  refine ⟨done, initial, stored, state, draws.trans ?_⟩
  have before : Statement.beforeDraws (Statement.ofText text 1) =
      [(Statement.ofText text 1).take 1] := by decide +kernel
  rw [before]
  rfl

end Script

end GpuScript
