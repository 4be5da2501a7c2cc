import GpuScript.Proofs.Section.Failure
import GpuScript.Proofs.Section.Upkeep

/-! The traces of a section in the buffers and bindings of its script. Sections only add: buffers and
bindings come behind those that there are, and a buffer gets a more settled format and a larger
recorded size. Nothing of it is taken back when a later statement fails, so a section that fails
leaves no trace exactly when none of its statements has left one, but for element counts, which can
be as they were again. -/
namespace GpuScript

namespace Pipeline

private theorem clearBuffers_of_free {pipeline : Pipeline} {slot : BindingSlot}
    (free : pipeline.bufferAt? slot = none) : pipeline.clearBuffers slot = pipeline := by
  have elsewhere : ∀ binding ∈ pipeline.buffers, (binding.slot != slot) = true := by
    intro binding member
    have other := List.find?_eq_none.mp (Option.map_eq_none_iff.mp free) binding member
    simpa using other
  rw [clearBuffers, List.filter_eq_self.mpr elsewhere]

end Pipeline

namespace Script

def bindings (script : Script) (id : Id Pipeline) : List BufferBinding :=
  ((script.pipelines.get? id).map Pipeline.buffers).getD []

/-- A script has at most got more buffers and bindings behind those it had, and its buffers have
accrued. -/
structure Accrues (before after : Script) : Prop where
  buffers : ∀ id buffer, before.buffers.store.get? id = some buffer →
    ∃ later, after.buffers.store.get? id = some later ∧ buffer.Accrues later
  names : before.buffers.names <+: after.buffers.names
  bindings : ∀ id, before.bindings id <+: after.bindings id

theorem Accrues.refl (script : Script) : Accrues script script :=
  ⟨fun _ buffer found => ⟨buffer, found, .refl buffer⟩, List.prefix_rfl, fun _ => List.prefix_rfl⟩

theorem Accrues.trans {before between after : Script} (first : Accrues before between)
    (next : Accrues between after) : Accrues before after where
  buffers id buffer found := by
    obtain ⟨later, present, accrues⟩ := first.buffers id buffer found
    obtain ⟨last, there, more⟩ := next.buffers id later present
    exact ⟨last, there, accrues.trans more⟩
  names := first.names.trans next.names
  bindings id := (first.bindings id).trans (next.bindings id)

theorem Accrues.get?_eq_none {before after : Script} (accrues : Accrues before after)
    {id : Id Buffer} (absent : after.buffers.store.get? id = none) :
    before.buffers.store.get? id = none := by
  refine Option.eq_none_iff_forall_ne_some.mpr fun buffer found => ?_
  obtain ⟨later, present, -⟩ := accrues.buffers id buffer found
  cases absent.symm.trans present

private theorem accrues_pushBuffer (script : Script) (buffer : Buffer) :
    Accrues script (script.pushBuffer buffer) := by
  refine ⟨fun id older found => ⟨older, ?_, .refl older⟩, List.prefix_append _ _,
    fun _ => List.prefix_rfl⟩
  change (script.buffers.store.push buffer).get? id = some older
  rw [Store.get?_push, if_neg ?_]
  · exact found
  · rintro rfl
    cases script.buffers.store.get?_nextId_eq_none.symm.trans found

/-- A change of a pipeline that binds more buffers at most. -/
theorem accrues_mapPipeline {script : Script} {id : Id Pipeline} {change : Pipeline → Pipeline}
    (more : ∀ pipeline, script.pipelines.get? id = some pipeline →
      pipeline.buffers <+: (change pipeline).buffers) :
    Accrues script (script.mapPipeline id change) := by
  refine ⟨(Accrues.refl script).buffers, List.prefix_rfl, fun other => ?_⟩
  rw [bindings, bindings, get?_mapPipeline]
  split
  · rename_i same
    subst other
    cases found : script.pipelines.get? id with
    | none => exact List.prefix_rfl
    | some pipeline => exact more pipeline found
  · exact List.prefix_rfl

private theorem accrues_setBuffer {script : Script} {id : Id Buffer} {buffer after : Buffer}
    (found : script.buffers.store.get? id = some buffer) (accrues : buffer.Accrues after) :
    Accrues script (script.setBuffer id after) := by
  refine ⟨fun other older present => ?_, List.prefix_rfl, fun _ => List.prefix_rfl⟩
  rw [get?_setBuffer]
  by_cases same : id = other
  · subst other
    cases found.symm.trans present
    exact ⟨after, by rw [if_pos rfl, found, Option.map_some], accrues⟩
  · exact ⟨older, by rw [if_neg same, present], .refl older⟩

/-- No step of a section takes anything back that was there at some time before. -/
theorem enduring_accrues (start : Script) :
    Enduring (Accrues start) fun id => start.buffers.store.get? id = none where
  add script buffer _ accrues :=
    ⟨accrues.trans (accrues_pushBuffer script buffer),
      accrues.get?_eq_none script.buffers.store.get?_nextId_eq_none⟩
  place script id pipeline buffer binding _ found free accrues := by
    refine (accrues.trans (accrues_pushBuffer script buffer)).trans (accrues_mapPipeline ?_)
    intro other present
    cases found.symm.trans present
    rw [Pipeline.clearBuffers_of_free free]
    exact List.prefix_append _ _
  accrue _ _ _ _ found accrued accrues := accrues.trans (accrues_setBuffer found accrued)
  write script id _ after fresh _ _ accrues := by
    refine ⟨fun other older present => ?_, accrues.names, accrues.bindings⟩
    have apart : id ≠ other := by
      rintro rfl
      cases fresh.symm.trans present
    rw [get?_setBuffer, if_neg apart]
    exact accrues.buffers other older present
  state _ _ _ accrues := accrues.trans (accrues_mapPipeline fun _ _ => List.prefix_rfl)
  format _ _ accrues := ⟨accrues.buffers, accrues.names, accrues.bindings⟩
  type _ _ accrues := ⟨accrues.buffers, accrues.names, accrues.bindings⟩

/-- The buffers of a script and all bindings are as they were. -/
structure Untouched (before after : Script) : Prop where
  buffers : after.buffers = before.buffers
  bindings : ∀ id, after.bindings id = before.bindings id

/-- The buffers of a script and all bindings are as they were, up to the element counts. -/
structure SameButCounts (before after : Script) : Prop where
  buffers : ∀ id, (after.buffers.store.get? id).map Buffer.uncounted =
    (before.buffers.store.get? id).map Buffer.uncounted
  names : after.buffers.names = before.buffers.names
  bindings : ∀ id, after.bindings id = before.bindings id

def SameCounts (before after : Script) : Prop :=
  ∀ id, (after.buffers.store.get? id).map Buffer.elementCount =
    (before.buffers.store.get? id).map Buffer.elementCount

theorem untouched_iff {before after : Script} :
    Untouched before after ↔ SameButCounts before after ∧ SameCounts before after := by
  constructor
  · rintro ⟨buffers, bindings⟩
    exact ⟨⟨fun _ => by rw [buffers], by rw [buffers], bindings⟩, fun _ => by rw [buffers]⟩
  · rintro ⟨⟨buffers, names, bindings⟩, counts⟩
    refine ⟨?_, bindings⟩
    have store : after.buffers.store = before.buffers.store := by
      refine Store.ext_get? fun id => ?_
      have rest := buffers id
      have count := counts id
      cases there : after.buffers.store.get? id with
      | none =>
        rw [there] at rest
        exact (Option.map_eq_none_iff.mp rest.symm).symm
      | some later =>
        rw [there] at rest
        obtain ⟨buffer, here, same⟩ := Option.map_eq_some_iff.mp rest.symm
        rw [there, here] at count
        rw [here, Buffer.eq_of_uncounted same (Option.some.inj count).symm]
    calc after.buffers = ⟨after.buffers.store, after.buffers.names⟩ := rfl
      _ = before.buffers := by rw [store, names]

/-- Where a script ends up as it was but for element counts, it was so all the time. -/
theorem Accrues.squeeze {before between after : Script} (first : Accrues before between)
    (next : Accrues between after) (same : SameButCounts before after) :
    SameButCounts before between := by
  have between_eq {Item : Type} {left middle right : List Item} (front : left <+: middle)
      (back : middle <+: right) (whole : right = left) : middle = left :=
    (front.eq_of_length_le (whole ▸ back.length_le)).symm
  refine ⟨fun id => ?_, between_eq first.names next.names same.names,
    fun id => between_eq (first.bindings id) (next.bindings id) (same.bindings id)⟩
  have ends := same.buffers id
  cases here : before.buffers.store.get? id with
  | none =>
    rw [here] at ends
    rw [next.get?_eq_none (Option.map_eq_none_iff.mp ends)]
  | some buffer =>
    obtain ⟨later, present, accrues⟩ := first.buffers id buffer here
    obtain ⟨last, there, more⟩ := next.buffers id later present
    rw [here, there] at ends
    rw [present]
    exact congrArg some (accrues.squeeze more (Option.some.inj ends))

private theorem accrues_executeAll (statements : List Statement) (session : Session) :
    Accrues session.script ((Session.executeAll statements).apply session).2.script :=
  Session.upholds_executeAll (enduring_accrues session.script) statements session
    (.refl session.script)

private theorem readSection_failed {script : Script} {id : Id Pipeline} {line : Nat} {text : String}
    {fault : Fault} (failed : (script.readSection id line text).1 = .error fault) :
    (script.readSection id line text).2 =
      script.sessionAfter id (Statement.ofText text line) := by
  rw [readSection, Session.apply_run] at failed ⊢
  rw [sessionAfter]
  cases ran : (Session.executeAll (Statement.ofText text line)).apply (.start script id) with
  | mk outcome after =>
    rw [ran] at failed
    cases outcome with
    | error other => rfl
    | ok =>
      dsimp only at failed ⊢
      rw [Session.commit, Edit.apply_bind, Session.apply_pipeline] at failed ⊢
      cases found : after.script.pipelines.get? after.pipelineId with
      | none => rfl
      | some pipeline =>
        rw [found] at failed
        dsimp only at failed
        rw [Edit.apply_bind_of_ok (Edit.apply_get after), Session.apply_changePipeline,
          found] at failed
        cases failed

/-- A run goes on from the session that its first statements leave, or has failed there. -/
theorem accrues_sessionAfter {script : Script} (id : Id Pipeline) {front whole : List Statement}
    (begins : front <+: whole) :
    Accrues (script.sessionAfter id front).script (script.sessionAfter id whole).script := by
  obtain ⟨rest, rfl⟩ := begins
  rw [sessionAfter, sessionAfter, Session.apply_executeAll_append]
  cases ran : (Session.executeAll front).apply (.start script id) with
  | mk outcome after =>
    cases outcome with
    | error fault => exact .refl _
    | ok => exact accrues_executeAll rest after

/-- A statement that does not begin with a word of the commands on buffers leaves no trace. -/
theorem untouched_executeAll {statements : List Statement}
    (plain : ∀ statement ∈ statements,
      statement.first.token.isWord = true →
        statement.first.token.text ∉ Session.bufferWords) (session : Session) :
    Untouched session.script ((Session.executeAll statements).apply session).2.script := by
  have kept : Session.Upholds (Untouched session.script) (Session.executeAll statements) :=
    Edit.maintains_forM fun statement member => Session.upholds_execute fun word =>
      Session.upholds_dispatch_of_plain (plain statement member word)
  exact kept session ⟨rfl, fun _ => rfl⟩

/-- A section that fails takes nothing back. Whatever its statements have added to the buffers and
bindings of the script is there afterwards, so these are as they were exactly when at no time
anything but element counts was otherwise and the element counts are as they were again. A section
without commands on buffers and probes leaves no trace in any case. -/
theorem readSection_untouched_iff {script : Script} {id : Id Pipeline} {line : Nat} {text : String}
    {fault : Fault} (failed : (script.readSection id line text).1 = .error fault) :
    script.Accrues (script.readSection id line text).2.script ∧
      (script.Untouched (script.readSection id line text).2.script ↔
        (∀ front, front <+: Statement.ofText text line →
          script.SameButCounts (script.sessionAfter id front).script) ∧
        script.SameCounts (script.readSection id line text).2.script) ∧
      ((∀ statement ∈ Statement.ofText text line, statement.first.token.isWord = true →
          statement.first.token.text ∉ Session.bufferWords) →
        script.Untouched (script.readSection id line text).2.script) := by
  rw [readSection_failed failed]
  refine ⟨accrues_sessionAfter id List.nil_prefix, ?_, fun plain => ?_⟩
  · rw [untouched_iff]
    refine and_congr_left fun _ => ⟨fun same front begins => ?_, fun always => ?_⟩
    · exact (accrues_sessionAfter id List.nil_prefix).squeeze (accrues_sessionAfter id begins) same
    · exact always _ List.prefix_rfl
  · exact untouched_executeAll plain (.start script id)

/-- A clear before an unknown command leaves no trace. -/
theorem readSection_untouched_iff_clear :
    let script := SectionTarget.compute.script
    (script.readSection ⟨0⟩ 1 "clear\nbogus").1 =
        .error (.located 2 (.complaint ⟨"Unknown command", some "bogus"⟩)) ∧
      script.Untouched (script.readSection ⟨0⟩ 1 "clear\nbogus").2.script := by
  intro script
  have failed : (script.readSection ⟨0⟩ 1 "clear\nbogus").1 =
      .error (.located 2 (.complaint ⟨"Unknown command", some "bogus"⟩)) := by
    decide +revert +kernel
  exact ⟨failed, (readSection_untouched_iff failed).2.2 (by decide +kernel)⟩

/-- A buffer that is made, bound and sized stays when a later command is unknown. -/
theorem readSection_touched :
    let script := SectionTarget.compute.script
    let after := (script.readSection ⟨0⟩ 1 "ssbo 0 16\nbogus").2.script
    (script.readSection ⟨0⟩ 1 "ssbo 0 16\nbogus").1 =
        .error (.located 2 (.complaint ⟨"Unknown command", some "bogus"⟩)) ∧
      script.buffers.store.size = 0 ∧ after.buffers.store.size = 1 ∧
      (script.bindings ⟨0⟩).length = 0 ∧ (after.bindings ⟨0⟩).length = 1 := by
  decide +kernel

end Script

end GpuScript
