import GpuScript.Proofs.Section.Recordings
import GpuScript.Section.Run

namespace GpuScript

/-- What a command says of formats is true of a script: the format that a probe refers to is the one
that its buffer has for its own, and that of a uniform buffer is laid out as such buffers are. -/
def Command.Agrees (script : Script) : Command → Prop
  | .probeStorage _ check => ∃ format, script.formats.get? check.format = some format ∧
      script.ownFormat? check.buffer = some format
  | .buffer _ write => write.role = .uniform →
      ∃ format, script.ownFormat? write.buffer = some format ∧ format.layout = .std140
  | _ => True

/-- The format that a probe of a storage buffer refers to, and the buffer. -/
def Command.probedFormat? : Command → Option (Id Format × Id Buffer)
  | .probeStorage _ check => some (check.format, check.buffer)
  | _ => none

def Command.uniformBuffer? : Command → Option (Id Buffer)
  | .buffer _ write => if write.role = .uniform then some write.buffer else none
  | _ => none

namespace Session

variable {session final : Session}

/-- A session has become another that has kept the formats of the script, and has recorded commands
that agree with them. -/
private structure Agreed (before after : Session) : Prop where
  own : ∀ id format, before.script.ownFormat? id = some format →
    after.script.ownFormat? id = some format
  registered : ∀ id format, before.script.formats.get? id = some format →
    after.script.formats.get? id = some format
  commands : ∃ commands, after.commands = before.commands ++ commands ∧
    ∀ command ∈ commands, command.Agrees after.script

private theorem Agreed.agrees (agreed : Agreed session final) {command : Command}
    (agrees : command.Agrees session.script) : command.Agrees final.script := by
  cases command with
  | probeStorage line check =>
    obtain ⟨format, kept, own⟩ := agrees
    exact ⟨format, agreed.registered _ format kept, agreed.own _ format own⟩
  | buffer head write =>
    intro role
    obtain ⟨format, own, layout⟩ := agrees role
    exact ⟨format, agreed.own _ format own, layout⟩
  | _ => trivial

private theorem Agreed.trans {first next last : Session} (left : Agreed first next)
    (right : Agreed next last) : Agreed first last := by
  obtain ⟨earlier, recorded, agree⟩ := left.commands
  obtain ⟨later, further, more⟩ := right.commands
  refine ⟨fun id format own => right.own id format (left.own id format own),
    fun id format kept => right.registered id format (left.registered id format kept),
    earlier ++ later, ?_, fun command member => ?_⟩
  · rw [further, recorded, List.append_assoc]
  · rcases List.mem_append.mp member with old | new
    · exact right.agrees (agree command old)
    · exact more command new

private theorem Agreed.of_words {words : Words} (agreed : Agreed { session with words } final) :
    Agreed session final := ⟨agreed.own, agreed.registered, agreed.commands⟩

private theorem Agreed.recorded {command : Command} {change : Id Buffer → Sizes → Sizes}
    (commands : final.commands = session.commands ++ [command])
    (evolves : session.script.Evolves change final.script) (agrees : command.Agrees final.script) :
    Agreed session final :=
  ⟨evolves.own, evolves.registered, [command], commands,
    fun _ member => List.mem_singleton.mp member ▸ agrees⟩

private theorem Agreed.aside {commands : List Command} (script : final.script = session.script)
    (recorded : final.commands = session.commands ++ commands)
    (agree : ∀ command ∈ commands, command.Agrees final.script) : Agreed session final :=
  ⟨fun _ _ own => script ▸ own, fun _ _ kept => script ▸ kept, commands, recorded, agree⟩

private theorem agreed_of_performed {name : String} (proper : session.words.Proper)
    (performed : Performed session name final) : Agreed session final := by
  have one {command : Command} (agrees : command.Agrees final.script) :
      ∀ other ∈ [command], other.Agrees final.script :=
    fun _ member => List.mem_singleton.mp member ▸ agrees
  cases performed with
  | @clear _ command cleared =>
    refine .aside rfl rfl (one ?_)
    cases command <;> trivial
  | storage done =>
    obtain ⟨words, script, write, change, role, rfl, -, changed⟩ := storage_ok proper done
    obtain ⟨_, evolves⟩ := changed.exists_evolves
    refine .recorded rfl evolves fun same => ?_
    rw [role] at same
    cases same
  | uniformBuffer _ _ done =>
    obtain ⟨words, script, write, -, rfl, laid, changed⟩ := uniformBuffer_ok done
    obtain ⟨_, evolves⟩ := changed.exists_evolves
    exact .recorded rfl evolves fun _ => laid
  | pushConstants _ _ done =>
    obtain ⟨words, script, write, role, rfl, changed⟩ := pushConstants_ok done
    obtain ⟨_, evolves⟩ := changed.exists_evolves
    refine .recorded rfl evolves fun same => ?_
    rw [role] at same
    cases same
  | storedProbe position _ _ done =>
    obtain ⟨words, script, probe, rfl, agrees, settled⟩ := probeStorage_ok done
    obtain ⟨left, rfl⟩ := position.exists_words
    exact .recorded rfl settled agrees
  | tolerance | setting => exact .aside rfl (List.append_nil _).symm nofun
  | rectangle | arrays | patch | probe | compute | computeEntry | stage | tessellation =>
    exact .aside rfl rfl (one trivial)

/-- A run of statements keeps formats, and its commands agree with them in the end. -/
private theorem agreed_of_executeAll {statements : List Statement}
    (proper : ∀ statement ∈ statements, (wordsOf statement).Proper)
    (done : (executeAll statements).apply session = (.ok ⟨⟩, final)) : Agreed session final := by
  refine executeAll_chain Agreed (fun _ => .aside rfl (List.append_nil _).symm nofun) Agreed.trans
    (fun statement member _ _ ran => ?_) done
  exact (agreed_of_performed (proper statement member) (performed_of_execute ran).2).of_words

end Session

namespace Script

open Session

def scriptAfter (script : Script) (id : Id Pipeline) (statements : List Statement) : Script :=
  (script.sessionAfter id statements).script

/-- In a section that is read to its end a format that a buffer has for its own between two
statements is its own between any two later ones and in the end. In the end too, the format that a
probe of a storage buffer refers to is that of its buffer, and uniform buffers have formats that are
laid out for them. -/
theorem readSection_formats {script : Script} {id : Id Pipeline} {line : Nat} {text : String}
    (done : (script.readSection id line text).1 = .ok ⟨⟩) :
    let final := (script.readSection id line text).2
    (∀ earlier middle later, Statement.ofText text line = earlier ++ middle ++ later →
        ∀ buffer format, (script.scriptAfter id earlier).ownFormat? buffer = some format →
          (script.scriptAfter id (earlier ++ middle)).ownFormat? buffer = some format ∧
            final.script.ownFormat? buffer = some format) ∧
      (∀ place check, .probeStorage place check ∈ final.commands →
        ∃ format, final.script.formats.get? check.format = some format ∧
          final.script.formatOf? check.buffer = some format) ∧
      (∀ head write, .buffer head write ∈ final.commands → write.role = .uniform →
        ∃ format, final.script.formatOf? write.buffer = some format ∧
          format.layout = .std140) := by
  intro final
  obtain ⟨reached, ran, left⟩ := readSection_ok done
  have proper : ∀ statement ∈ Statement.ofText text line, (wordsOf statement).Proper :=
    fun _ => Statement.proper_of_mem
  have committed : final = reached.committed := left
  have own (buffer : Id Buffer) :
      final.script.ownFormat? buffer = reached.script.ownFormat? buffer := by
    rw [committed]
    rfl
  obtain ⟨commands, recorded, agree⟩ := (agreed_of_executeAll proper ran).commands
  have agrees {command : Command} (member : command ∈ final.commands) :
      command.Agrees final.script := by
    rw [committed] at member ⊢
    rw [show reached.committed.commands = commands from recorded] at member
    have agrees := agree command member
    cases command <;> exact agrees
  refine ⟨fun earlier middle later parted buffer format before => ?_,
    fun place check member => ?_, fun head write member role => ?_⟩
  · rw [parted, executeAll_append_ok] at ran
    obtain ⟨between, ran, rest⟩ := ran
    obtain ⟨first, opening, next⟩ := executeAll_append_ok.mp ran
    rw [scriptAfter, sessionAfter, opening] at before
    rw [own, scriptAfter, sessionAfter, ran]
    rw [parted] at proper
    have kept := (agreed_of_executeAll (fun statement member => proper statement
      (List.mem_append_left _ (List.mem_append_right _ member))) next).own buffer format before
    exact ⟨kept, (agreed_of_executeAll (fun statement member => proper statement
      (List.mem_append_right _ member)) rest).own buffer format kept⟩
  · obtain ⟨format, kept, owned⟩ := agrees member
    exact ⟨format, kept, formatOf?_of_ownFormat? owned⟩
  · obtain ⟨format, owned, layout⟩ := agrees member role
    exact ⟨format, formatOf?_of_ownFormat? owned, layout⟩

/-- A storage buffer keeps the format of its first write, which a probe then refers to, beside a
uniform buffer. -/
theorem readSection_formats_probe :
    let script := SectionTarget.compute.script
    let text := "ssbo 0 subdata float 0 1.0\nuniform ubo 1 vec2 0 1.0 2.0\n" ++
      "probe ssbo float 0 0 == 1.0\n"
    let final := (script.readSection ⟨0⟩ 1 text).2
    (script.readSection ⟨0⟩ 1 text).1 = .ok ⟨⟩ ∧
      (∃ format, final.script.ownFormat? ⟨0⟩ = some format) ∧
      (∃ format, final.script.formats.get? ⟨2⟩ = some format ∧
        final.script.formatOf? ⟨0⟩ = some format) ∧
      (∃ format, final.script.formatOf? ⟨1⟩ = some format ∧ format.layout = .std140) := by
  intro script text final
  have done : (script.readSection ⟨0⟩ 1 text).1 = .ok ⟨⟩ := by decide +kernel
  obtain ⟨stays, probes, uniforms⟩ := readSection_formats done
  refine ⟨done, ?_, ?_, ?_⟩
  · have written : ((script.scriptAfter ⟨0⟩ ((Statement.ofText text 1).take 1)).ownFormat?
        ⟨0⟩).isSome := by decide +kernel
    obtain ⟨format, own⟩ := Option.isSome_iff_exists.mp written
    have parted : Statement.ofText text 1 =
        (Statement.ofText text 1).take 1 ++ (Statement.ofText text 1).drop 1 ++ [] := by
      rw [List.append_nil, List.take_append_drop]
    exact ⟨format, (stays _ _ _ parted ⟨0⟩ format own).2⟩
  · have told : ∃ command ∈ final.commands, command.probedFormat? = some (⟨2⟩, ⟨0⟩) := by
      decide +kernel
    obtain ⟨command, member, same⟩ := told
    cases command with
    | probeStorage place check =>
      obtain ⟨format, buffer⟩ := Prod.mk.inj (Option.some.inj same)
      exact format ▸ buffer ▸ probes place check member
    | _ => cases same
  · have told : ∃ command ∈ final.commands, command.uniformBuffer? = some ⟨1⟩ := by
      decide +kernel
    obtain ⟨command, member, same⟩ := told
    cases command with
    | buffer head write =>
      obtain ⟨role, buffer⟩ := Option.ite_none_right_eq_some.mp same
      exact Option.some.inj buffer ▸ uniforms head write member role
    | _ => cases same

end Script

end GpuScript
