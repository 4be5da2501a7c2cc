import GpuScript.Proofs.Section.Frame

namespace GpuScript

namespace Session

open Reader

variable {keeps : Prop}

theorem steady_headed {Result : Type} {rest : Nat → CommandHead → Edit Session Result}
    (after : ∀ line head, Steady keeps (rest line head)) :
    Steady keeps (do
      let line ← read line
      let head ← headAt line
      rest line head) :=
  (quiet_read plain_line).bindSteady fun line => (quiet_headAt line).bindSteady (after line)

private theorem steady_drawRectangle : Steady keeps drawRectangle := by
  refine steady_headed fun line head => ?_
  refine veiled_pipeline.steadyThrough (fun _ _ _ => rfl) fun pipeline => ?_
  refine .guard (quiet_throw rfl) ((quiet_read plain_rectangleDraw).bindSteady fun draw => ?_)
  exact .onState (fun _ _ _ => rfl) fun _ => steady_record _ _

private theorem steady_drawArrays : Steady keeps drawArrays := by
  refine steady_headed fun line head => ?_
  refine (quiet_read plain_arrayDraw).bindSteady fun draw => ?_
  exact .onState (fun _ _ _ => rfl) fun _ => steady_record _ _

private theorem steady_draw : Steady keeps draw := by
  refine (quiet_read plain_next).bindSteady fun token => ?_
  refine .guard (quiet_read (.refuseAt _ _)) ?_
  split
  · exact steady_drawRectangle
  · exact steady_drawArrays
  · exact (quiet_read (.refuseAt _ _)).steady _

private theorem steady_clear : Steady keeps clear := by
  refine (quiet_read plain_next).bindSteady fun token => ?_
  refine steady_headed fun line head => ?_
  split
  · exact steady_record _ _
  · have final (command : Command) : Steady keeps (do
        read (expectEnd s!"Extra parameter to clear {token.text} command")
        record command) :=
      (quiet_read (plain_expectEnd _)).bindSteady fun _ => steady_record _ _
    dsimp only
    split
    · exact (quiet_read plain_single).bindSteady fun _ => (quiet_pure _).bindSteady final
    · exact (quiet_read plain_stencilValue).bindSteady fun _ => (quiet_pure _).bindSteady final
    · exact (quiet_read plain_color).bindSteady fun _ => (quiet_pure _).bindSteady final
    · exact (quiet_read (.refuseAt _ _)).bindSteady final

theorem steady_entryPoint (stage : ShaderStage) : Steady keeps (entryPoint stage) := by
  refine steady_headed fun line head => ?_
  exact (quiet_read plain_entryPointName).bindSteady fun name => steady_record _ _

private theorem steady_compute : Steady keeps compute := by
  refine steady_headed fun line head => ?_
  refine (quiet_read plain_next).bindSteady fun token => ?_
  split
  · exact steady_entryPoint _
  · exact (quiet_read (plain_gridSize _)).bindSteady fun groups => steady_record _ _

private theorem steady_patch : Steady keeps patch := by
  refine steady_headed fun line head => ?_
  refine (quiet_read plain_patchVertexCount).bindSteady fun count => ?_
  exact steady_changeStateRecord _ _ _

theorem steady_stage (words : String) (stage : ShaderStage) :
    Steady keeps (Session.stage words stage) := by
  refine (quiet_read plain_next).bindSteady fun token => ?_
  exact .guard (quiet_read (.refuseAt _ _)) (steady_entryPoint stage)

private theorem steady_tessellation : Steady keeps tessellation := by
  refine (quiet_read plain_next).bindSteady fun token => ?_
  split
  · exact steady_stage _ _
  · exact steady_stage _ _
  · exact (quiet_read (.refuseAt _ _)).steady _

theorem quiet_makeBuffer : Quiet makeBuffer :=
  .onState (fun _ _ _ => rfl) fun _ => quiet_onScript (Script.aside_addBuffer _)

theorem quiet_bufferAt (slot : BindingSlot) (kind : BufferKind) : Quiet (bufferAt slot kind) := by
  refine veiled_pipeline.bindThrough (fun _ _ _ => rfl) fun pipeline => ?_
  split
  · exact quiet_pure _
  · refine quiet_makeBuffer.bind fun buffer => ?_
    exact (quiet_changePipeline ⟨fun _ _ => rfl⟩).bind fun _ => quiet_pure _

theorem quiet_onBuffer {Result : Type} {operation : Edit Buffer Result}
    (plain : operation.IsPlain) (id : Id Buffer) :
    Quiet (onBuffer id operation) := quiet_onScript (Script.aside_onBuffer plain id)

theorem quiet_keepFormat (format : Format) : Quiet (keepFormat format) :=
  quiet_onScript (Script.aside_pushFormat format)

theorem plain_requireBuffer (buffers : Store Buffer) (id : Id Buffer) :
    Plain (buffers.requireBuffer id) := by
  unfold Store.requireBuffer
  split
  · exact .ok _
  · exact .error rfl

theorem quiet_ofExcept {Result : Type} {outcome : Except Fault Result} (plain : Plain outcome) :
    Quiet (Edit.ofExcept outcome : Edit Session Result) := by
  cases outcome with
  | ok result => exact quiet_pure result
  | error fault => exact quiet_throw (plain fault rfl)

theorem quiet_agreeOnFormat (id : Id Buffer) (format : Format) (rule : String) :
    Quiet (agreeOnFormat id format rule) := by
  refine .onState (fun _ _ _ => rfl) fun session => ?_
  refine (quiet_ofExcept (plain_requireBuffer _ _)).bind fun buffer => ?_
  split
  · split
    · exact quiet_throw rfl
    · exact quiet_pure _
  · exact (quiet_onBuffer (.change _) id).bind fun _ => quiet_keepFormat format

private theorem quiet_storageData (buffer : Id Buffer) : Quiet (storageData buffer) := by
  refine (quiet_read plain_next).bind fun token => .guard (quiet_read (.refuseAt _ _)) ?_
  refine (quiet_read (plain_format _)).bind fun format => ?_
  refine (quiet_agreeOnFormat _ _ _).bind fun _ => ?_
  refine (quiet_read (plain_offset _ _)).bind fun offset => ?_
  refine (quiet_read (plain_values _ _)).bind fun values => ?_
  exact (quiet_onBuffer (Buffer.plain_recordSize _ _) _).bind fun _ => quiet_pure _

private theorem quiet_storageSize (buffer : Id Buffer) : Quiet (storageSize buffer) := by
  refine (quiet_read plain_next).bind fun token => .guard (quiet_read (.refuseAt _ _)) ?_
  refine .guard (quiet_read (.refuseAt _ _)) ?_
  refine (quiet_onBuffer (.change _) _).bind fun _ => ?_
  refine .onState (fun _ _ _ => rfl) fun session => ?_
  refine (quiet_ofExcept (plain_requireBuffer _ _)).bind fun found => ?_
  split
  · refine (quiet_onBuffer (.change _) _).bind fun _ => (quiet_keepFormat _).bind fun _ => ?_
    exact quiet_read (plain_expectEnd _)
  · exact quiet_read (plain_expectEnd _)

private theorem steady_storage : Steady keeps storage := by
  refine steady_headed fun line head => ?_
  refine (quiet_read plain_next).bindSteady fun first => .guard (quiet_read (.refuse _)) ?_
  refine .guard (quiet_read (.refuse _)) ?_
  refine (quiet_read (plain_slot _ _)).bindSteady fun slot => ?_
  refine (quiet_read plain_peek).bindSteady fun token => .guard (quiet_read (.refuseAt _ _)) ?_
  refine (quiet_bufferAt _ _).bindSteady fun buffer => ?_
  split
  · refine (quiet_read plain_next).bindSteady fun _ => ?_
    exact (quiet_storageData _).bindSteady fun _ => steady_record _ _
  · exact (quiet_storageSize _).bindSteady fun _ => steady_record _ _

theorem quiet_uniformData (buffer : Id Buffer) (format : Format) :
    Quiet (uniformData buffer format) := by
  refine (quiet_agreeOnFormat _ _ _).bind fun _ => ?_
  refine (quiet_read (plain_offset _ _)).bind fun offset => ?_
  refine (quiet_read (plain_values _ _)).bind fun values => ?_
  exact (quiet_onBuffer (Buffer.plain_recordSize _ _) _).bind fun _ => quiet_pure _

private theorem steady_uniformBuffer (head : CommandHead) : Steady keeps (uniformBuffer head) := by
  refine (quiet_read (plain_integer _)).bindSteady fun first => ?_
  refine (quiet_read (plain_slot _ _)).bindSteady fun slot => ?_
  refine (quiet_read plain_next).bindSteady fun token => .guard (quiet_read (.refuseAt _ _)) ?_
  refine (quiet_bufferAt _ _).bindSteady fun buffer => ?_
  refine (quiet_read (plain_format _)).bindSteady fun format => ?_
  exact (quiet_uniformData _ _).bindSteady fun _ => steady_record _ _

private theorem steady_pushConstants (head : CommandHead) (typeName : String) :
    Steady keeps (pushConstants head typeName) := by
  refine quiet_makeBuffer.bindSteady fun buffer => ?_
  refine (quiet_read (plain_format _)).bindSteady fun format => ?_
  refine (quiet_uniformData _ _).bindSteady fun data => ?_
  exact (quiet_onBuffer (Buffer.plain_setDataAt _ _) _).bindSteady fun _ => steady_record _ _

theorem steady_uniform : Steady keeps uniform := by
  refine steady_headed fun line head => ?_
  refine (quiet_read plain_next).bindSteady fun token => .guard (quiet_read (.refuseAt _ _)) ?_
  refine .guard (quiet_read (.refuseAt _ _)) ?_
  split
  · exact steady_uniformBuffer head
  · exact steady_pushConstants head _

theorem steady_probeStorage : Steady keeps probeStorage := by
  refine (quiet_read plain_line).bindSteady fun line => ?_
  refine (quiet_read plain_next).bindSteady fun token => .guard (quiet_read (.refuse _)) ?_
  refine .guard (quiet_read (.refuseAt _ _)) ?_
  refine (quiet_read (plain_format _)).bindSteady fun format => ?_
  refine (quiet_read (plain_integer _)).bindSteady fun first => ?_
  refine (quiet_read (plain_slot _ _)).bindSteady fun slot => ?_
  refine (quiet_read plain_peek).bindSteady fun token => .guard (quiet_read (.refuseAt _ _)) ?_
  refine veiled_pipeline.steadyThrough (fun _ _ _ => rfl) fun pipeline => ?_
  split
  · exact (quiet_throw rfl).steady _
  · refine (quiet_agreeOnFormat _ _ _).bindSteady fun _ => ?_
    refine .onState (fun _ _ _ => rfl) fun session => ?_
    refine (quiet_onScript (Script.aside_registerFormat _)).bindSteady fun _ => ?_
    refine (quiet_read (plain_integer _)).bindSteady fun offset => ?_
    refine (quiet_read plain_comparator).bindSteady fun comparator => ?_
    refine (quiet_read (plain_values _ _)).bindSteady fun values => ?_
    exact .onState (fun _ _ _ => rfl) fun _ => steady_record _ _

theorem steady_probe (isRelative : Bool) : Steady keeps (Session.probe isRelative) := by
  refine (quiet_read plain_next).bindSteady fun first => .guard (quiet_read (.refuseAt _ _)) ?_
  split
  · exact steady_probeStorage
  · refine veiled_pipeline.steadyThrough (fun _ _ _ => rfl) fun pipeline => ?_
    split
    · exact (quiet_throw rfl).steady _
    · refine (quiet_read plain_line).bindSteady fun line => ?_
      refine .onState (fun _ _ _ => rfl) fun session => ?_
      exact (quiet_read (plain_probe _ _)).bindSteady fun _ => steady_record _ _

theorem steady_relativeProbe : Steady keeps relativeProbe := by
  refine (quiet_read plain_next).bindSteady fun token => ?_
  exact .guard (quiet_read (.refuseAt _ _)) (steady_probe true)

theorem steady_tolerance (loses : ¬keeps) : Steady keeps tolerance := by
  refine (quiet_read plain_tolerances).bindSteady fun tolerances => ?_
  exact ⟨fun _ _ _ => rfl, fun _ => .ok _, fun _ => rfl, fun _ _ => rfl,
    fun keep => absurd keep loses, fun _ _ failed => by cases failed⟩

theorem steady_dispatch {name : String} (loses : keeps → name ≠ "tolerance") :
    Steady keeps (dispatch name) := by
  unfold dispatch
  split
  case h_1 => exact steady_draw
  case h_2 => exact steady_clear
  case h_3 => exact steady_storage
  case h_4 => exact steady_uniform
  case h_5 => exact steady_patch
  case h_6 => exact steady_probe false
  case h_7 => exact steady_tolerance fun keep => loses keep rfl
  case h_8 => exact steady_relativeProbe
  case h_9 => exact steady_compute
  case h_10 | h_11 | h_12 => exact steady_stage _ _
  case h_13 => exact steady_tessellation
  case h_14 =>
    have plain := Setting.plain_reader? name
    split
    · rename_i reader found
      exact (quiet_read (plain reader found)).bindSteady fun change => steady_changeState _ change
    · exact (quiet_read (.refuseAt _ _)).steady _

theorem quiet_setWords (words : Words) :
    Quiet (modify fun session : Session => { session with words }) :=
  ⟨fun _ _ _ => rfl, fun _ => ⟨rfl, fun _ => rfl, rfl, rfl, rfl⟩, fun _ => .ok _⟩

/-- A statement sets tolerances when its first word says so. -/
theorem steady_perform (statement : Statement) :
    Steady (statement.first.token ≠ .word "tolerance") (perform statement) := by
  refine (quiet_setWords _).bindSteady fun _ => ?_
  split
  · rename_i isWord
    apply steady_dispatch
    intro keep same
    apply keep
    cases token : statement.first.token with
    | word text =>
      rw [token] at same
      exact congrArg Token.word same
    | _ =>
      rw [token] at isWord
      cases isWord
  · exact (quiet_read (.refuseAt _ _)).steady _

end Session

end GpuScript
