import GpuScript.Proofs.Section.Cut
import GpuScript.Proofs.Section.Execution
import GpuScript.Section.Run

namespace GpuScript

namespace Session

private theorem committed_eq_shadow (session : Session) :
    session.committed = session.shadow session.state [] := rfl

end Session

namespace Script

open Session

/-- A section that fails leaves the commands and the state that the text before its failing
statement leaves, and the stored state as it was; the fault is tied to the line that the first token
of that statement ends on. -/
theorem readSection_error {script : Script} {id : Id Pipeline}
    (valid : (script.pipelines.get? id).isSome) {line : Nat} {text : String} {fault : Fault}
    (failed : (script.readSection id line text).1 = .error fault) :
    ∃ earlier statement later before source after,
      Statement.Cut text line earlier statement later before source after ∧
      (∃ cause, fault = .located (line + Cursor.lineBreaks (before ++ source).toList) cause) ∧
      fault.kind = .parse ∧
      (script.readSection id line before).1 = .ok ⟨⟩ ∧
      ((execute statement).apply (script.readSection id line before).2).1 = .error fault ∧
      (script.readSection id line text).2.commands =
        (script.readSection id line before).2.commands ∧
      (script.readSection id line text).2.state = (script.readSection id line before).2.state ∧
      ∀ other, (script.readSection id line text).2.script.stateAt? other =
        script.stateAt? other := by
  have stored := executeAll_stored (Statement.ofText text line) (start script id)
  rw [readSection_eq valid line text, close_fst] at failed
  cases found : (executeAll (Statement.ofText text line)).apply (start script id) with
  | mk outcome after =>
    rw [found] at failed stored
    change outcome = _ at failed
    subst failed
    obtain ⟨earlier, statement, later, reached, parted, done, stopped⟩ := executeAll_error found
    obtain ⟨before, source, rest, cut⟩ := Statement.exists_cut parted
    obtain ⟨⟨cause, -, located⟩, commands, state⟩ := execute_error stopped
    have alone : script.readSection id line before = (.ok ⟨⟩, reached.committed) := by
      rw [readSection_eq valid, cut.earlier_eq, done]
      rfl
    refine ⟨earlier, statement, later, before, source, rest, cut, ⟨cause, ?_⟩, ?_, ?_⟩
    · rw [located, cut.line_first]
    · rw [located]
      rfl
    · rw [readSection_eq valid line text, found, alone]
      refine ⟨rfl, ?_, commands, state, stored⟩
      rw [committed_eq_shadow, execute_shadow, stopped]

/-- A draw that fails after a clear: the clear is kept, and the fault has the second line. -/
theorem readSection_error_second_line :
    let script := (SectionTarget.graphics 8 8).script
    (script.readSection ⟨0⟩ 1 "clear\ndraw rect 0 0 1\n").1 =
        .error (.located 2 (.codec .notANumber)) ∧
      ∃ earlier statement later before source after,
        Statement.Cut "clear\ndraw rect 0 0 1\n" 1 earlier statement later before source after ∧
        (script.readSection ⟨0⟩ 1 before).1 = .ok ⟨⟩ ∧
        (script.readSection ⟨0⟩ 1 "clear\ndraw rect 0 0 1\n").2.commands =
          (script.readSection ⟨0⟩ 1 before).2.commands := by
  have failed : ((SectionTarget.graphics 8 8).script.readSection ⟨0⟩ 1
      "clear\ndraw rect 0 0 1\n").1 = .error (.located 2 (.codec .notANumber)) := by
    decide +kernel
  obtain ⟨earlier, statement, later, before, source, after, cut, -, -, done, -, commands, -⟩ :=
    readSection_error (by decide) failed
  exact ⟨failed, earlier, statement, later, before, source, after, cut, done, commands⟩

end Script

end GpuScript
