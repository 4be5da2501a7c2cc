import GpuScript.Proofs.Section.Cut
import GpuScript.Proofs.Section.Execution
import GpuScript.Section.Run

/-! Reading a section is compositional: two texts one after the other do what they do when the
second is read on its own for what the first one left, as long as the first one closes its last
line. -/
namespace GpuScript

namespace Session

private theorem shadow_start {session : Session} {id : Id Pipeline} (here : session.pipelineId = id)
    (valid : (session.script.stateAt? id).isSome) (fixed : session.tolerances = []) :
    session.shadow session.state [] =
      { (start session.committed.script id).shadow session.state session.commands with
        words := session.words } := by
  subst here
  obtain ⟨pipeline, found⟩ := Option.isSome_iff_exists.mp (Option.isSome_map ▸ valid)
  have stored : (session.committed.script.pipelines.get? session.pipelineId).map Pipeline.state =
      some session.state := by
    rw [committed, Script.withState, Script.get?_mapPipeline, if_pos rfl, found]
    rfl
  have script : session.committed.script.withState session.pipelineId session.state =
      session.committed.script := Script.withState_stateAt? stored
  rw [shadow, shadow, start, stored, script, fixed.symm]
  simp only [List.append_nil, List.nil_append, Option.getD_some]
  rfl

/-- Statements that go on in a session do what they do in a fresh reading of the script that the
session leaves. -/
theorem executeAll_resume {session : Session} {id : Id Pipeline} (here : session.pipelineId = id)
    (valid : (session.script.stateAt? id).isSome) (fixed : session.tolerances = [])
    (statements : List Statement) :
    let resumed := (executeAll statements).apply session
    let fresh := (executeAll statements).apply (start session.committed.script id)
    resumed.1 = fresh.1 ∧ resumed.2.commands = session.commands ++ fresh.2.commands ∧
      resumed.2.committed.script = fresh.2.committed.script := by
  intro resumed fresh
  have left := executeAll_shadow statements session session.state []
  rw [shadow_start here valid fixed] at left
  obtain ⟨rest, right⟩ := executeAll_words statements
    ((start session.committed.script id).shadow session.state session.commands) session.words
  rw [executeAll_shadow] at right
  obtain ⟨outcome, reached⟩ := Prod.mk.inj (left.symm.trans right)
  have commands : resumed.2.commands = session.commands ++ fresh.2.commands :=
    (congrArg Session.commands reached :)
  have state : resumed.2.state = fresh.2.state := (congrArg Session.state reached :)
  have spot : resumed.2.pipelineId = fresh.2.pipelineId := (congrArg Session.pipelineId reached :)
  have script : resumed.2.script.withState resumed.2.pipelineId session.state =
      fresh.2.script.withState fresh.2.pipelineId session.state :=
    (congrArg Session.script reached :)
  refine ⟨outcome, commands, ?_⟩
  have stored := congrArg (Script.withState · resumed.2.pipelineId resumed.2.state) script
  simp only [spot, state, Script.withState_withState] at stored
  rw [committed, committed, spot, state]
  exact stored

end Session

namespace Script

open Session

/-- Two texts are read together as they are read one after the other, the second one from the line
it begins on and for the script that the first one left. -/
theorem readSection_append {script : Script} {id : Id Pipeline}
    (valid : (script.pipelines.get? id).isSome) {line : Nat} {front : String} (back : String)
    (ended : Cursor.LineClosed (Cursor.ofText front line).body)
    (closed : ¬Cursor.CommentOpen front.toList)
    (fixed : ∀ statement ∈ Statement.ofText front line,
      statement.first.token ≠ .word "tolerance") :
    let whole := script.readSection id line (front ++ back)
    let first := script.readSection id line front
    let second := first.2.script.readSection id (line + Cursor.lineBreaks front.toList) back
    (whole.1 = .ok ⟨⟩ ↔ first.1 = .ok ⟨⟩ ∧ second.1 = .ok ⟨⟩) ∧
      (whole.1 = .ok ⟨⟩ → whole.2.script = second.2.script ∧
        whole.2.commands = first.2.commands ++ second.2.commands) := by
  intro whole first second
  have here := executeAll_pipelineId (Statement.ofText front line) (start script id)
  have stored := executeAll_stored (Statement.ofText front line) (start script id) id
  have kept := executeAll_tolerances fixed (start script id)
  have state := stateAt?_start valid
  have alone : first = _ := readSection_eq valid line front
  have joined : whole = _ := readSection_eq valid line (front ++ back)
  rw [Statement.ofText_append ended closed back, apply_executeAll_append] at joined
  cases found : (executeAll (Statement.ofText front line)).apply (start script id) with
  | mk outcome reached =>
    rw [found] at here stored kept alone joined
    cases outcome with
    | error fault =>
      have failed : whole.1 = .error fault := by rw [joined, close_fst]
      have firstFailed : first.1 = .error fault := by rw [alone, close_fst]
      rw [failed, firstFailed]
      refine ⟨⟨fun done => (by cases done), fun done => (by cases done.1)⟩, fun done => ?_⟩
      cases done
    | ok =>
      change reached.pipelineId = id at here
      change reached.tolerances = [] at kept
      change whole = close ((executeAll _).apply reached) at joined
      have validLeft : (reached.script.stateAt? id).isSome := by
        rw [show reached.script.stateAt? id = some (start script id).state from stored.trans state]
        rfl
      have firstDone : first.1 = .ok ⟨⟩ := by rw [alone, close_fst]
      have firstLeft : first.2 = reached.committed := by rw [alone]; rfl
      have validAfter : (reached.committed.script.pipelines.get? id).isSome := by
        apply isSome_get?_of_stateAt?
        rw [stateAt?_committed here validLeft]
        rfl
      have apart : second = close ((executeAll (Statement.ofText back
          (line + Cursor.lineBreaks front.toList))).apply (start reached.committed.script id)) := by
        rw [show second = first.2.script.readSection id _ back from rfl, firstLeft]
        exact readSection_eq validAfter _ back
      obtain ⟨outcome, commands, left⟩ := executeAll_resume here validLeft kept
        (Statement.ofText back (line + Cursor.lineBreaks front.toList))
      refine ⟨?_, fun done => ?_⟩
      · rw [firstDone, joined, apart, close_fst, close_fst]
        exact ⟨fun done => ⟨rfl, outcome ▸ done⟩, fun done => outcome.trans done.2⟩
      · rw [joined, close_fst] at done
        rw [joined, apart, firstLeft, close_of_ok done, close_of_ok (outcome ▸ done)]
        exact ⟨left, commands⟩

/-- Two clears are recorded as one and one. -/
theorem readSection_append_clears :
    let script := (SectionTarget.graphics 8 8).script
    let whole := script.readSection ⟨0⟩ 1 ("clear\n" ++ "clear\n")
    let first := script.readSection ⟨0⟩ 1 "clear\n"
    let second := first.2.script.readSection ⟨0⟩ 2 "clear\n"
    whole.1 = .ok ⟨⟩ ∧ whole.2.script = second.2.script ∧
      whole.2.commands = first.2.commands ++ second.2.commands := by
  have joined := @readSection_append (SectionTarget.graphics 8 8).script ⟨0⟩ (by decide) 1
    "clear\n" "clear\n" (by decide +kernel) (by decide +kernel) (by decide +kernel)
  have done : ((SectionTarget.graphics 8 8).script.readSection ⟨0⟩ 1 ("clear\n" ++ "clear\n")).1 =
      .ok ⟨⟩ := by decide +kernel
  exact ⟨done, joined.2 done⟩

/-- A comment that the first text leaves open swallows the beginning of the second. -/
theorem readSection_append_open_comment :
    ¬∀ (script : Script) (id : Id Pipeline) (line : Nat) (front back : String),
      (script.pipelines.get? id).isSome →
      Cursor.LineClosed (Cursor.ofText front line).body →
      (∀ statement ∈ Statement.ofText front line,
        statement.first.token ≠ .word "tolerance") →
      let whole := script.readSection id line (front ++ back)
      let first := script.readSection id line front
      let second := first.2.script.readSection id (line + Cursor.lineBreaks front.toList) back
      (whole.1 = .ok ⟨⟩ ↔ first.1 = .ok ⟨⟩ ∧ second.1 = .ok ⟨⟩) ∧
        (whole.1 = .ok ⟨⟩ → whole.2.script = second.2.script ∧
          whole.2.commands = first.2.commands ++ second.2.commands) := by
  intro composes
  have joined := composes (SectionTarget.graphics 8 8).script ⟨0⟩ 1 "clear\n#" "clear\n"
    (by decide) (by decide +kernel) (by decide +kernel)
  have lengths := congrArg List.length (joined.2 (by decide +kernel)).2
  rw [List.length_append] at lengths
  revert lengths
  decide +kernel

end Script

end GpuScript
