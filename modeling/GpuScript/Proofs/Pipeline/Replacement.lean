import GpuScript.Proofs.Pipeline.Bindings

namespace GpuScript

namespace AttachedShader

/-- A shader whose settings are those of a new one: it has nothing but what it is and its stage. -/
def Plain (attached : AttachedShader) : Prop :=
  attached =
    { shader := attached.shader
      name := attached.name
      format := attached.format
      stage := attached.stage }

def handedTo (attached : AttachedShader) (id : Id Shader) (shader : Shader) : AttachedShader :=
  { attached with shader := id, name := shader.name, format := shader.format }

/-- The settings of a shader are handed on, so that the next one is as new only where they were. -/
theorem handedTo_eq_fresh_iff {attached : AttachedShader} {id : Id Shader} {shader : Shader} :
    attached.handedTo id shader = fresh id shader attached.stage ↔ attached.Plain := by
  constructor
  · intro same
    have restored := congrArg
      (fun other : AttachedShader => { other with
        shader := attached.shader, name := attached.name, format := attached.format }) same
    exact restored
  · intro plain
    rw [plain]
    rfl

end AttachedShader

namespace Pipeline

variable {pipeline after : Pipeline} {id : Id Shader} {shader : Shader} {stage : ShaderStage}

/-- Outside of ray tracing a shader is attached where its stage is one of the pipeline's kind and
the shader is not attached already. -/
theorem attachShader_ok (single : pipeline.kind ≠ .rayTracing) :
    (attachShader id shader stage).apply pipeline = (.ok ⟨⟩, after) ↔
      pipeline.kind.Permits stage ∧ id ∉ pipeline.shaders.map (·.shader) ∧
        after = { pipeline with
          shaders := upsert (·.stage == stage) (·.handedTo id shader) (.fresh id shader stage)
            pipeline.shaders } := by
  have raster : pipeline.isRayTracing = false := by simpa [isRayTracing] using single
  unfold attachShader
  rw [Edit.apply_bind_of_ok (Edit.apply_get pipeline), ← stageFault?_eq_none_iff]
  dsimp only
  cases stageFault? pipeline.kind stage with
  | some cause =>
    refine iff_of_false (fun done => ?_) fun permitted => ?_
    · cases done
    · cases permitted.1
  | none =>
    by_cases attached : pipeline.shaders.any (·.shader == id) = true
    · have member : id ∈ pipeline.shaders.map (·.shader) := by
        simpa [List.any_eq_true] using attached
      dsimp only
      rw [if_pos attached]
      refine iff_of_false (fun done => ?_) fun permitted => permitted.2.1 member
      cases done
    · dsimp only
      rw [if_neg attached, raster]
      constructor
      · intro done
        exact ⟨rfl, not_mem_keys attached, (Prod.mk.inj done).2.symm⟩
      · rintro ⟨-, -, rfl⟩
        rfl

/-- A shader attached to a graphics or compute pipeline is the only one of its stage. It has the
settings of the shader whose place it takes, and so it is as one attached anew exactly if the stage
was free or that shader had no settings; the shaders of the other stages stay as they are. -/
theorem attachShader_fresh_iff (reachable : pipeline.Reachable)
    (single : pipeline.kind ≠ .rayTracing)
    (attached : (attachShader id shader stage).apply pipeline = (.ok ⟨⟩, after)) :
    ∃ entry, after.shaders.filter (·.stage == stage) = [entry] ∧
      (entry = .fresh id shader stage ↔
        ∀ old ∈ pipeline.shaders, old.stage = stage → old.Plain) ∧
      (∀ old ∈ pipeline.shaders, old.stage = stage → entry = old.handedTo id shader) ∧
      after.shaders.filter (·.stage != stage) = pipeline.shaders.filter (·.stage != stage) := by
  obtain ⟨-, -, rfl⟩ := (attachShader_ok single).mp attached
  have distinct := reachable.wellFormed.shaders.onePerStage single
  have elsewhere : (upsert (·.stage == stage) (·.handedTo id shader) (.fresh id shader stage)
      pipeline.shaders).filter (·.stage != stage) =
        pipeline.shaders.filter (·.stage != stage) :=
    filter_upsert_of_apart (fun _ => rfl) (fun _ _ same => by simp [beq_iff_eq.mp same])
      (by simp [AttachedShader.fresh])
  have here : (upsert (·.stage == stage) (·.handedTo id shader) (.fresh id shader stage)
      pipeline.shaders).filter (·.stage == stage) = _ :=
    filter_upsert (fun _ => rfl) (beq_self_eq_true stage)
  by_cases free : ∀ old ∈ pipeline.shaders, old.stage ≠ stage
  · have none : pipeline.shaders.filter (·.stage == stage) = [] := by
      simpa [List.filter_eq_nil_iff] using free
    rw [none] at here
    refine ⟨.fresh id shader stage, here, iff_of_true rfl ?_, ?_, elsewhere⟩
    · exact fun old member same => absurd same (free old member)
    · exact fun old member same => absurd same (free old member)
  · obtain ⟨old, member, rfl⟩ : ∃ old ∈ pipeline.shaders, old.stage = stage := by
      simpa using free
    have alone := filter_key_of_nodup distinct member
    rw [alone] at here
    have only : ∀ other ∈ pipeline.shaders, other.stage = old.stage → other = old := by
      intro other present same
      have found : other ∈ pipeline.shaders.filter (·.stage == old.stage) :=
        List.mem_filter.mpr ⟨present, beq_iff_eq.mpr same⟩
      exact List.mem_singleton.mp (alone ▸ found)
    refine ⟨old.handedTo id shader, here, ?_, ?_, elsewhere⟩
    · rw [AttachedShader.handedTo_eq_fresh_iff]
      constructor
      · exact fun plain other present same => only other present same ▸ plain
      · exact fun plain => plain old member rfl
    · exact fun other present same => only other present same ▸ rfl

/-- A fragment shader without settings is replaced by one that is as attached anew; the entry point
of the vertex shader stays. -/
theorem attachShader_fresh_iff_fragment :
    let flat : Shader := { name := "flat", stage := .vertex }
    let fill : Shader := { name := "fill", stage := .fragment }
    let shade : Shader := { name := "shade", stage := .fragment, format := .glsl }
    let operations : List Workbench.Operation :=
      [.request (.attachShader ⟨0⟩ flat .vertex), .request (.setEntryPoint "flat" "bend"),
        .request (.attachShader ⟨1⟩ fill .fragment)]
    let source : Pipeline := { name := "draw", kind := .graphics }
    let drawn := (Workbench.perform { pipeline := source } operations).pipeline
    let after := ((attachShader ⟨2⟩ shade .fragment).apply drawn).2
    drawn.Reachable ∧ drawn.shaders.map (·.entryPoint) = ["bend", "main"] ∧
      after.shaders.filter (·.stage == .fragment) = [.fresh ⟨2⟩ shade .fragment] ∧
      after.shaders.filter (·.stage != .fragment) =
        drawn.shaders.filter (·.stage != .fragment) := by
  intro flat fill shade operations source drawn after
  have settled : ∀ operation ∈ operations, operation.Sealed := by
    simp [operations, Workbench.Operation.Sealed]
  have reachable : drawn.Reachable := .perform (.new "draw" .graphics) settled
  have attached : (attachShader ⟨2⟩ shade .fragment).apply drawn = (.ok ⟨⟩, after) := rfl
  obtain ⟨entry, alone, anew, -, others⟩ := attachShader_fresh_iff reachable (by decide) attached
  have plain : ∀ old ∈ drawn.shaders, old.stage = .fragment → old.Plain := by
    have shaders : drawn.shaders =
        [{ AttachedShader.fresh ⟨0⟩ flat .vertex with entryPoint := "bend" },
          .fresh ⟨1⟩ fill .fragment] := rfl
    rw [shaders]
    simp [AttachedShader.Plain, AttachedShader.fresh]
  exact ⟨reachable, rfl, anew.mpr plain ▸ alone, others⟩

/-- The entry point that was named for one vertex shader is that of the next one, for which none can
be named any more. -/
theorem attachShader_inherits :
    let flat : Shader := { name := "flat", stage := .vertex }
    let curved : Shader := { name := "curved", stage := .vertex }
    let operations : List Workbench.Operation :=
      [.request (.attachShader ⟨0⟩ flat .vertex), .request (.setEntryPoint "flat" "bend")]
    let source : Pipeline := { name := "draw", kind := .graphics }
    let drawn := (Workbench.perform { pipeline := source } operations).pipeline
    let outcome := (attachShader ⟨1⟩ curved .vertex).apply drawn
    drawn.Reachable ∧ outcome.1 = .ok ⟨⟩ ∧
      outcome.2.shaders =
        [{ AttachedShader.fresh ⟨1⟩ curved .vertex with entryPoint := "bend" }] ∧
      outcome.2.shaders.filter (·.stage == .vertex) ≠ [.fresh ⟨1⟩ curved .vertex] ∧
      ((setEntryPoint "curved" "turn").apply outcome.2).1 =
        .error (.pipeline .secondEntryPoint) := by
  intro flat curved operations source drawn outcome
  have settled : ∀ operation ∈ operations, operation.Sealed := by
    simp [operations, Workbench.Operation.Sealed]
  exact ⟨.perform (.new "draw" .graphics) settled, rfl, rfl, by decide +kernel, rfl⟩

end Pipeline

end GpuScript
