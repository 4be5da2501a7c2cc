import GpuScript.Proofs.Section.Execution
import GpuScript.Proofs.Section.Parts

namespace GpuScript

namespace Session

/-- Where a probe begins: behind `probe`, or behind `relative probe`. -/
inductive ProbeAt (session : Session) : String → Session → Prop
  | plain : ProbeAt session "probe" session
  | relative (named : session.words.head.text = "probe") :
    ProbeAt session "relative" session.advance

theorem ProbeAt.exists_words {session start : Session} {name : String}
    (position : ProbeAt session name start) : ∃ words, start = { session with words } := by
  cases position with
  | plain => exact ⟨session.words, rfl⟩
  | relative => exact ⟨session.words.tail, rfl⟩

theorem ProbeAt.follows {session start : Session} {name : String}
    (position : ProbeAt session name start) : start.words.Follows session.words := by
  cases position with
  | plain => exact .refl session.words
  | relative => exact session.words.follows_tail

/-- A session has become another by the command that a word names. -/
inductive Performed (session : Session) : String → Session → Prop
  | rectangle (words : Words) (isOrtho isPatch : Bool) (area : Rectangle)
      (isWord : session.words.head.isWord = true) (named : session.words.head.text = "rect") :
    Performed session "draw" (recorded { session with words }
      (.drawRect session.advance.head session.state isOrtho isPatch area))
  | arrays {words : Words} {draw : ArrayDraw} (isWord : session.words.head.isWord = true)
      (named : session.words.head.text = "arrays")
      (reading : Reader.arrayDraw.run session.words.tail = .ok (draw, words)) :
    Performed session "draw" (recorded { session with words }
      (.drawArrays session.advance.head session.state draw))
  | clear (words : Words) {command : Command} (cleared : IsClear session.advance.head command) :
    Performed session "clear" (recorded { session with words } command)
  | storage {final : Session} (done : storage.apply session = (.ok ⟨⟩, final)) :
    Performed session "ssbo" final
  | uniformBuffer {final : Session} (isWord : session.words.head.isWord = true)
      (named : session.words.head.text = "ubo")
      (done : (uniformBuffer session.head).apply session.advance = (.ok ⟨⟩, final)) :
    Performed session "uniform" final
  | pushConstants {final : Session} (isWord : session.words.head.isWord = true)
      (named : session.words.head.text ≠ "ubo")
      (done : (pushConstants session.head session.words.head.text).apply session.advance =
        (.ok ⟨⟩, final)) :
    Performed session "uniform" final
  | patch {words : Words} {count : Nat}
      (reading : Reader.patchVertexCount.run session.words = .ok (count, words)) :
    Performed session "patch" (recorded
      { session with words, state := { session.state with patchControlPoints := count } }
      (.patchVertices session.head count))
  | probe {name : String} {start : Session} (words : Words) (probe : Probe)
      (position : ProbeAt session name start) (isWord : start.words.head.isWord = true)
      (named : start.words.head.text ≠ "ssbo") :
    Performed session name (recorded { session with words }
      (.probe start.advance.words.line probe))
  | storedProbe {name : String} {start final : Session} (position : ProbeAt session name start)
      (isWord : start.words.head.isWord = true) (named : start.words.head.text = "ssbo")
      (done : probeStorage.apply start.advance = (.ok ⟨⟩, final)) :
    Performed session name final
  | tolerance (words : Words) (tolerances : List Tolerance) :
    Performed session "tolerance" { session with words, tolerances }
  | compute {words : Words} {groups : GridSize}
      (reading : (Reader.gridSize session.words.head).run session.words.tail =
        .ok (groups, words)) :
    Performed session "compute" (recorded { session with words }
      (.compute session.head groups))
  | computeEntry (words : Words) (entry : String)
      (named : session.words.head.text = "entrypoint") :
    Performed session "compute" (recorded { session with words }
      (.entryPoint session.advance.head .compute entry))
  | stage {name : String} (words : Words) (stage : ShaderStage) (entry : String)
      (keyword : name ∈ ["vertex", "fragment", "geometry"])
      (named : session.words.head.text = "entrypoint") :
    Performed session name (recorded { session with words }
      (.entryPoint session.advance.head stage entry))
  | tessellation (words : Words) (stage : ShaderStage) (entry : String)
      (isWord : session.words.head.isWord = true)
      (named : session.advance.words.head.text = "entrypoint") :
    Performed session "tessellation" (recorded { session with words }
      (.entryPoint session.advance.advance.head stage entry))
  | setting {name : String} {reader : Reader StateChange} {words : Words} {change : StateChange}
      (known : Setting.reader? name = some reader)
      (reading : reader.run session.words = .ok (change, words)) :
    Performed session name { session with words, state := change session.state }

variable {session final : Session}

private theorem performed_of_probe {name : String} {start : Session} {isRelative : Bool}
    (position : ProbeAt session name start)
    (done : (Session.probe isRelative).apply start = (.ok ⟨⟩, final)) :
    Performed session name final := by
  obtain ⟨isWord, ⟨named, stored⟩ | ⟨named, words, probe, rfl⟩⟩ := probe_ok done
  · exact .storedProbe position isWord named stored
  · cases position with
    | plain => exact .probe words probe .plain isWord named
    | relative behind => exact .probe words probe (.relative behind) isWord named

/-- A command that succeeds is of one of the forms. -/
theorem performed_of_dispatch {name : String}
    (done : (dispatch name).apply session = (.ok ⟨⟩, final)) : Performed session name final := by
  unfold dispatch at done
  split at done
  · obtain ⟨isWord, ⟨named, words, isOrtho, isPatch, area, rfl⟩ |
      ⟨named, words, draw, reading, rfl⟩⟩ := draw_ok done
    · exact .rectangle words isOrtho isPatch area isWord named
    · exact .arrays isWord named reading
  · obtain ⟨words, command, cleared, rfl⟩ := clear_ok done
    exact .clear words cleared
  · exact .storage done
  · obtain ⟨isWord, ⟨named, done⟩ | ⟨named, done⟩⟩ := uniform_parts done
    · exact .uniformBuffer isWord named done
    · exact .pushConstants isWord named done
  · obtain ⟨words, count, reading, rfl⟩ := patch_ok done
    exact .patch reading
  · exact performed_of_probe .plain done
  · obtain ⟨words, tolerances, rfl⟩ := tolerance_ok done
    exact .tolerance words tolerances
  · obtain ⟨named, probed⟩ := relativeProbe_ok done
    exact performed_of_probe (.relative named) probed
  · rcases compute_ok done with ⟨words, groups, reading, rfl⟩ | ⟨named, words, entry, rfl⟩
    · exact .compute reading
    · exact .computeEntry words entry named
  iterate 3
    · obtain ⟨named, words, entry, rfl⟩ := stage_ok done
      exact .stage words _ entry (by decide) named
  · obtain ⟨isWord, named, words, stage, entry, rfl⟩ := tessellation_ok done
    exact .tessellation words stage entry isWord named
  · split at done
    · rename_i known
      obtain ⟨words, change, reading, rfl⟩ := setting_ok done
      exact .setting known reading
    · exact absurd done (refuses_refuseAt _ _ _ _ _)

def wordsOf (statement : Statement) : Words :=
  ⟨statement.others, statement.closing, statement.first.line⟩

/-- A statement that succeeds begins with the word that names its command, and the command
succeeds. -/
theorem dispatched_of_execute {statement : Statement}
    (done : (execute statement).apply session = (.ok ⟨⟩, final)) :
    statement.first.token.isWord = true ∧
      (dispatch statement.first.token.text).apply { session with words := wordsOf statement } =
        (.ok ⟨⟩, final) := by
  rw [apply_execute] at done
  cases performed : (perform statement).apply session with
  | mk outcome after =>
    rw [performed] at done
    cases outcome with
    | error fault => cases done
    | ok =>
      cases done
      unfold perform at performed
      rw [Edit.apply_bind_of_ok (Edit.apply_modify _ _)] at performed
      split at performed
      · rename_i isWord
        exact ⟨isWord, performed⟩
      · exact absurd performed (refuses_refuseAt _ _ _ _ _)

theorem performed_of_execute {statement : Statement}
    (done : (execute statement).apply session = (.ok ⟨⟩, final)) :
    statement.first.token.isWord = true ∧
      Performed { session with words := wordsOf statement } statement.first.token.text final :=
  (dispatched_of_execute done).imp_right performed_of_dispatch

end Session

end GpuScript
