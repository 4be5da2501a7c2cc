import GpuScript.Proofs.Format.Names
import GpuScript.Proofs.Script.Uniqueness
import GpuScript.Proofs.Section.Execution

/-! Names of the buffers that sections make for want of one. Such a name tells how many buffers there
were, so a buffer with it either has that number itself or was declared under the name; what is made
for kernels is named otherwise. In every script that calls lead to, also half-way through a section,
the next such name is thus in use exactly when a call has given it to a buffer. -/
namespace GpuScript

namespace Buffer

theorem toList_madeName (count : Nat) :
    (madeName count).toList = "AutoBuf-".toList ++ Nat.toDigits 10 count := by
  rw [madeName, String.toList_append, Nat.toString_eq_repr, Nat.toList_repr]
  rfl

theorem madeName_inj {left right : Nat} (same : madeName left = madeName right) : left = right := by
  have letters := congrArg String.toList same
  rw [toList_madeName, toList_madeName] at letters
  exact toDigits_inj (List.append_cancel_left letters)

private theorem ne_madeName_of_bar {name : String} (bar : '_' ∈ name.toList) (count : Nat) :
    name ≠ madeName count := by
  rintro rfl
  rw [toList_madeName, List.mem_append] at bar
  rcases bar with front | digits
  · exact absurd front (by decide)
  · have digit := Nat.isDigit_of_mem_toDigits (by decide) (by decide) digits
    exact absurd digit (by decide)

end Buffer

namespace Store

/-- A buffer that is named like a made one has the number in its name, or the name was given. -/
def Numbered (given : String → Prop) (buffers : Store Buffer) : Prop :=
  ∀ id count, buffers.nameAt? Buffer.name id = some (Buffer.madeName count) →
    count = id.index ∨ given (Buffer.madeName count)

variable {given : String → Prop} {buffers : Store Buffer}

theorem numbered_empty (given : String → Prop) : Numbered given {} := by
  intro id count named
  cases named

theorem Numbered.push (numbered : Numbered given buffers) {buffer : Buffer}
    (origin : ∀ count, buffer.name = Buffer.madeName count →
      count = buffers.size ∨ given (Buffer.madeName count)) :
    Numbered given (buffers.push buffer) := by
  intro id count named
  rw [nameAt?_push] at named
  split at named
  · rename_i last
    exact last ▸ origin count (Option.some.inj named)
  · exact numbered id count named

theorem Numbered.push_of_bar (numbered : Numbered given buffers) {buffer : Buffer}
    (bar : '_' ∈ buffer.name.toList) : Numbered given (buffers.push buffer) :=
  numbered.push fun count same => absurd same (Buffer.ne_madeName_of_bar bar count)

theorem Numbered.of_same {after : Store Buffer} (numbered : Numbered given buffers)
    (same : ∀ id, after.nameAt? Buffer.name id = buffers.nameAt? Buffer.name id) :
    Numbered given after :=
  fun id count named => numbered id count ((same id).symm.trans named)

/-- The name that tells how many buffers there are is held by one of them only if it was given. -/
theorem Numbered.given_of_held (numbered : Numbered given buffers) {id : Id Buffer}
    (held : buffers.nameAt? Buffer.name id = some (Buffer.madeName buffers.size)) :
    given (Buffer.madeName buffers.size) := by
  refine (numbered id _ held).resolve_left fun last => ?_
  -- A buffer that was made as such has a lower number than there are buffers now.
  have bound := lt_size_of_nameAt? held
  omega

end Store

namespace Workbench

private theorem bar_mem_argumentBufferName (pipeline : String) (slot : BindingSlot) :
    '_' ∈ s!"{pipeline}_pod_buffer_{slot.descriptorSet}_{slot.binding}".toList := by
  have middle : '_' ∈ (toString "_pod_buffer_").toList := by decide
  simp [String.toList_append, middle]

/-- Storage for kernel arguments and push constants is not named like a made buffer. -/
theorem enduring_numbered (given : String → Prop) :
    Enduring fun bench => bench.buffers.Numbered given where
  pushConstants _ _ numbered := numbered.push_of_bar (by decide)
  arguments bench slot _ _ numbered :=
    numbered.push_of_bar (bar_mem_argumentBufferName bench.pipeline.name slot)
  contents _ _ _ _ _ found same numbered := by
    have name := congrArg Buffer.name same
    exact numbered.of_same (Store.nameAt?_set_of_same found name)
  sampled _ _ numbered := numbered
  bound _ _ numbered := numbered
  literals _ numbered := numbered

end Workbench

namespace Script

variable {given : String → Prop}

theorem numbered_copyPipeline {script : Script} (numbered : script.buffers.store.Numbered given)
    (source : Id Pipeline) (name : String) :
    ((copyPipeline source name).apply script).2.buffers.store.Numbered given := by
  cases found : script.pipelines.get? source with
  | none =>
    rw [apply_copyPipeline_unknown found]
    exact numbered
  | some pipeline =>
    obtain ⟨outcome, made, -, copied, ran⟩ := copyPipeline_parts found name
    have begun : ((script.benchOf pipeline).withCopy name).buffers.Numbered given := numbered
    obtain ⟨last, kept, same, -⟩ :=
      (Workbench.enduring_numbered given).toLasting.copyPipeline begun copied
    have stored : made.buffers = last.buffers := (Workbench.mk.inj same).2.1
    rw [← stored] at kept
    rw [ran]
    cases outcome with
    | error fault => exact kept
    | ok copy =>
      have indexed : ((script.withBuffers made.buffers).indexBuffers
          script.buffers.store.size).buffers.store = made.buffers := Catalog.store_indexFrom _ _
      rw [← indexed] at kept
      exact kept

private theorem maintains_prepareKernels_numbered (given : String → Prop) :
    Edit.Maintains (fun script => script.buffers.store.Numbered given) prepareKernels := by
  refine Edit.maintains_get_bind fun seen _ => Edit.maintains_bind ?_ fun _ => ?_
  · refine Edit.maintains_forM fun id _ => maintains_onBench fun script pipeline _ numbered => ?_
    exact Workbench.maintains_prepareKernel (Workbench.enduring_numbered given)
      (script.benchOf pipeline) numbered
  · refine Edit.maintains_bind ?_ fun _ => Edit.maintains_modify fun _ numbered => numbered
    refine Edit.maintains_modify fun script numbered => ?_
    have indexed : (script.indexBuffers seen.buffers.store.size).buffers.store =
        script.buffers.store := Catalog.store_indexFrom _ _
    rw [← indexed] at numbered
    exact numbered

/-- A section names the buffers that it makes after their number. -/
theorem lasting_numbered (given : String → Prop) :
    Lasting fun script => script.buffers.store.Numbered given where
  add _ _ named numbered := numbered.push fun _ own =>
    .inl (Buffer.madeName_inj (own.symm.trans named))
  fill _ _ _ _ found same numbered := numbered.of_same (Store.nameAt?_set_of_same found same)
  rebind _ _ _ _ numbered := numbered
  format _ _ numbered := numbered
  type _ _ numbered := numbered

/-- The name of the buffer that a call declares, or fails to. -/
def Call.givenName? : Call → Option String
  | .addBuffer buffer => some buffer.name
  | _ => none

def givenNames (calls : List Call) : List String := calls.filterMap Call.givenName?

theorem mem_givenNames_cons {call : Call} {rest : List Call} {name : String} :
    name ∈ givenNames (call :: rest) ↔ call.givenName? = some name ∨ name ∈ givenNames rest := by
  simp only [givenNames, List.mem_filterMap, List.mem_cons, or_and_right, exists_or,
    exists_eq_left]

/-- Of all calls only sections, which name buffers after their number, and declarations add buffers
that are named like made ones. -/
theorem Call.numbered (call : Call) {script : Script}
    (numbered : script.buffers.store.Numbered given)
    (gives : ∀ name, call.givenName? = some name → given name) :
    (call.apply script).buffers.store.Numbered given := by
  cases call with
  | addBuffer buffer =>
    change ((Script.addBuffer buffer).apply script).2.buffers.store.Numbered given
    rw [apply_addBuffer]
    split
    · exact numbered
    · exact numbered.push fun _ own => .inr (own ▸ gives buffer.name rfl)
  | copyPipeline source name => exact numbered_copyPipeline numbered source name
  | prepareKernels => exact maintains_prepareKernels_numbered given script numbered
  | readSection pipeline line text =>
    exact (lasting_numbered given).readSection numbered pipeline line text
  | addType name type =>
    have spared : Edit.Secures (fun script => script.buffers.store.Numbered given)
        (Script.addType name type) := Edit.secures_checked fun _ _ numbered => numbered
    exact spared.maintains script numbered
  | amend change same => exact numbered.of_same (same script).buffers.items
  | addPipeline pipeline => exact numbered
  | addShader shader => exact numbered
  | addSampler sampler => exact numbered
  | addBottomLevel bottom => exact numbered
  | addTopLevel top => exact numbered

private theorem numbered_perform {script : Script} {calls : List Call}
    (numbered : script.buffers.store.Numbered given)
    (gives : ∀ name ∈ givenNames calls, given name) :
    (script.perform calls).buffers.store.Numbered given := by
  induction calls generalizing script with
  | nil => exact numbered
  | cons call rest ih =>
    have first := call.numbered numbered fun name gave =>
      gives name (mem_givenNames_cons.mpr (.inl gave))
    exact ih first fun name later => gives name (mem_givenNames_cons.mpr (.inr later))

theorem Call.isSome_id?_of_gives {call : Call} {name : String} (gives : call.givenName? = some name)
    (script : Script) : ((call.apply script).buffers.id? name).isSome := by
  cases call with
  | addBuffer buffer =>
    cases gives
    change (((Script.addBuffer buffer).apply script).2.buffers.id? buffer.name).isSome
    rw [apply_addBuffer]
    split
    · assumption
    · exact Catalog.isSome_id?_concat _ _ _ _
  | _ => cases gives

private theorem isSome_id?_perform {script : Script} {name : String}
    (known : (script.buffers.id? name).isSome) (calls : List Call) :
    ((script.perform calls).buffers.id? name).isSome := by
  induction calls generalizing script with
  | nil => exact known
  | cons call rest ih => exact ih ((call.advances script).buffers.isSome_id? known)

private theorem isSome_id?_of_given {script : Script} {calls : List Call} {name : String}
    (given : name ∈ givenNames calls) : ((script.perform calls).buffers.id? name).isSome := by
  induction calls generalizing script with
  | nil => cases given
  | cons call rest ih =>
    rcases mem_givenNames_cons.mp given with gives | later
    · exact isSome_id?_perform (call.isSome_id?_of_gives gives script) rest
    · exact ih later

/-- Also half-way through a section buffers that are named like made ones have their own number in
the name, or one that a call has given them. -/
theorem numbered_sessionAfter (calls : List Call) (id : Id Pipeline) (statements : List Statement) :
    ((perform {} calls).sessionAfter id statements).script.buffers.store.Numbered
      (· ∈ givenNames calls) := by
  have begun : (perform {} calls).buffers.store.Numbered (· ∈ givenNames calls) :=
    numbered_perform (Store.numbered_empty _) fun _ member => member
  exact Session.upholds_executeAll (lasting_numbered _).enduring statements (.start _ id) begun

/-- The index of the buffers half-way through a section leads to buffers of the names, and all names
that were given are in it. -/
theorem known_sessionAfter (calls : List Call) (id : Id Pipeline) (statements : List Statement) :
    let script := ((perform {} calls).sessionAfter id statements).script
    script.buffers.Sound Buffer.name ∧
      ∀ name ∈ givenNames calls, (script.buffers.id? name).isSome := by
  intro script
  have declares : Declares (perform {} calls) script :=
    Session.upholds_executeAll (lasting_declares _).enduring statements (.start _ id) (.refl _)
  exact ⟨declares.buffers.sound (indexed_perform indexed_empty calls).1.buffers,
    fun _ given => declares.buffers.isSome_id? (isSome_id?_of_given given)⟩

/-- In every script that calls lead to, and after any statements of a section for it, making a buffer
fails exactly when a call has given a buffer the name that tells how many there are, and then changes
nothing. Otherwise no buffer has the name, and the new one is made. -/
theorem makeBuffer_exact (calls : List Call) (id : Id Pipeline) (statements : List Statement)
    (session : Session) :
    let script := ((perform {} calls).sessionAfter id statements).script
    let name := Buffer.madeName script.buffers.store.size
    Session.makeBuffer.apply { session with script } =
        (if name ∈ givenNames calls then (.error (.nameTaken "buffer"), { session with script })
        else (.ok script.buffers.store.nextId,
          { session with script := script.pushBuffer { name } })) ∧
      ((∃ other, script.buffers.nameAt? Buffer.name other = some name) ↔
        name ∈ givenNames calls) := by
  intro script name
  have numbered : script.buffers.store.Numbered (· ∈ givenNames calls) :=
    numbered_sessionAfter calls id statements
  obtain ⟨sound, known⟩ := known_sessionAfter calls id statements
  have held (taken : (script.buffers.id? name).isSome) :
      ∃ other, script.buffers.nameAt? Buffer.name other = some name := by
    obtain ⟨other, leads⟩ := Option.isSome_iff_exists.mp taken
    exact ⟨other, sound name other leads⟩
  have gave : (∃ other, script.buffers.nameAt? Buffer.name other = some name) →
      name ∈ givenNames calls := fun ⟨_, named⟩ => numbered.given_of_held named
  refine ⟨?_, gave, fun given => held (known name given)⟩
  rw [Session.apply_makeBuffer]
  by_cases given : name ∈ givenNames calls
  · rw [if_pos given]
    exact if_pos (known name given)
  · rw [if_neg given]
    exact if_neg fun taken => given (gave (held taken))

/-- One buffer is declared under the name of a buffer that is made when there is one: a section that
needs a buffer fails. -/
theorem makeBuffer_declared :
    let script := perform {}
      [.addPipeline { name := "compute", kind := .compute }, .addBuffer { name := "AutoBuf-1" }]
    script.buffers.store.size = 1 ∧
      script.buffers.nameAt? Buffer.name ⟨0⟩ = some "AutoBuf-1" ∧
      (Session.makeBuffer.apply (.start script ⟨0⟩)).1 = .error (.nameTaken "buffer") ∧
      (script.readSection ⟨0⟩ 1 "ssbo 0 8\n").1 = .error (.located 1 (.nameTaken "buffer")) := by
  decide +kernel

end Script

end GpuScript
