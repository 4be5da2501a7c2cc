import GpuScript.Proofs.Script.Names

namespace GpuScript

namespace Catalog

variable {Item : Type} {nameOf : Item → String}

def Distinct (nameOf : Item → String) (catalog : Catalog Item) : Prop :=
  ∀ id other name, catalog.nameAt? nameOf id = some name →
    catalog.nameAt? nameOf other = some name → id = other

theorem distinct_empty (nameOf : Item → String) : Distinct nameOf ({} : Catalog Item) := by
  intro id other name named
  cases named

theorem Distinct.of_sameNames {before after : Catalog Item} (distinct : Distinct nameOf before)
    (same : SameNames nameOf before after) : Distinct nameOf after := by
  intro id other name named second
  rw [same.items] at named second
  exact distinct id other name named second

/-- An item is added only under a name that is not in the index, and so under one that no item has
if the index is complete. -/
theorem Distinct.add {catalog : Catalog Item} (distinct : Distinct nameOf catalog)
    (complete : Complete nameOf catalog) (entity : String) (item : Item) :
    Distinct nameOf ((Catalog.add entity (nameOf item) item).apply catalog).2 := by
  rw [apply_add]
  by_cases taken : (catalog.id? (nameOf item)).isSome
  · rw [if_pos taken]
    exact distinct
  · rw [if_neg taken]
    intro id other name named second
    have free (known : Id Item) : catalog.nameAt? nameOf known ≠ some (nameOf item) :=
      fun held => taken (complete.named known _ held)
    rw [declare, nameAt?, Store.nameAt?_push] at named second
    split at named <;> split at second
    · rename_i first last
      exact first.trans last.symm
    · cases named
      exact absurd second (free other)
    · cases second
      exact absurd named (free id)
    · exact distinct id other name named second

end Catalog

namespace Script

structure DistinctNames (script : Script) : Prop where
  pipelines : script.pipelines.Distinct Pipeline.name
  shaders : script.shaders.Distinct Shader.name

private theorem lasting_distinctNames : Lasting DistinctNames where
  add _ _ _ distinct := ⟨distinct.pipelines, distinct.shaders⟩
  fill _ _ _ _ _ _ distinct := ⟨distinct.pipelines, distinct.shaders⟩
  rebind script id _ same distinct :=
    ⟨distinct.pipelines.of_sameNames (Catalog.sameNames_modify script.pipelines id same),
      distinct.shaders⟩
  format _ _ distinct := ⟨distinct.pipelines, distinct.shaders⟩
  type _ _ distinct := ⟨distinct.pipelines, distinct.shaders⟩

private theorem distinctNames_copyPipeline {script : Script} (distinct : DistinctNames script)
    (complete : script.pipelines.Complete Pipeline.name) (source : Id Pipeline) (name : String) :
    DistinctNames ((copyPipeline source name).apply script).2 := by
  cases found : script.pipelines.get? source with
  | none =>
    rw [apply_copyPipeline_unknown found]
    exact distinct
  | some pipeline =>
    obtain ⟨outcome, made, -, -, ran⟩ := copyPipeline_parts found name
    rw [ran]
    cases outcome with
    | error fault => exact ⟨distinct.pipelines, distinct.shaders⟩
    | ok copy => exact ⟨distinct.pipelines.add complete "pipeline" copy, distinct.shaders⟩

private theorem maintains_onBench_distinctNames (id : Id Pipeline) :
    Edit.Maintains DistinctNames (onBench id Workbench.prepareKernel) := by
  refine maintains_onBench fun script pipeline found distinct => ?_
  have begun : Workbench.KeepsNames (script.benchOf pipeline) (script.benchOf pipeline) :=
    ⟨rfl, .refl _ _, .refl _ _⟩
  have kept := Workbench.maintains_prepareKernel (Workbench.enduring_keepsNames _) _ begun
  exact ⟨distinct.pipelines.of_sameNames (Catalog.sameNames_set found kept.pipeline),
    distinct.shaders⟩

theorem maintains_prepareKernels_distinctNames : Edit.Maintains DistinctNames prepareKernels := by
  refine Edit.maintains_get_bind fun script _ => Edit.maintains_bind ?_ fun _ => ?_
  · exact Edit.maintains_forM fun id _ => maintains_onBench_distinctNames id
  · refine Edit.maintains_bind ?_ fun _ => ?_
    · exact Edit.maintains_modify fun _ distinct => ⟨distinct.pipelines, distinct.shaders⟩
    · exact Edit.maintains_modify fun _ distinct => ⟨distinct.pipelines, distinct.shaders⟩

theorem Call.distinctNames (call : Call) {script : Script} (indexed : Indexed script)
    (distinct : DistinctNames script) : DistinctNames (call.apply script) := by
  cases call with
  | addPipeline pipeline =>
    exact ⟨distinct.pipelines.add indexed.pipelines "pipeline" pipeline, distinct.shaders⟩
  | addShader shader =>
    exact ⟨distinct.pipelines, distinct.shaders.add indexed.shaders "shader" shader⟩
  | addBuffer buffer => exact ⟨distinct.pipelines, distinct.shaders⟩
  | addSampler sampler => exact ⟨distinct.pipelines, distinct.shaders⟩
  | addBottomLevel bottom => exact ⟨distinct.pipelines, distinct.shaders⟩
  | addTopLevel top => exact ⟨distinct.pipelines, distinct.shaders⟩
  | addType name type =>
    have spared : Edit.Secures DistinctNames (Script.addType name type) :=
      Edit.secures_checked fun _ _ distinct => ⟨distinct.pipelines, distinct.shaders⟩
    exact spared.maintains script distinct
  | copyPipeline source name =>
    exact distinctNames_copyPipeline distinct indexed.pipelines source name
  | prepareKernels => exact maintains_prepareKernels_distinctNames script distinct
  | readSection pipeline line text =>
    exact lasting_distinctNames.readSection distinct pipeline line text
  | amend change same =>
    have kept := same script
    exact ⟨distinct.pipelines.of_sameNames kept.pipelines,
      distinct.shaders.of_sameNames kept.shaders⟩

theorem indexed_empty : Indexed {} :=
  ⟨complete_empty _, complete_empty _, (complete_empty _).sound, (complete_empty _).sound⟩

theorem distinctNames_of_indexed {script : Script} (indexed : Indexed script)
    (distinct : DistinctNames script) (calls : List Call) :
    DistinctNames (script.perform calls) := by
  induction calls generalizing script with
  | nil => exact distinct
  | cons call rest ih =>
    exact ih ((call.advances script).indexed indexed) (call.distinctNames indexed distinct)

/-- The names of pipelines and shaders are unique in every script that calls lead to. -/
theorem distinctNames_perform (calls : List Call) : DistinctNames (perform {} calls) :=
  distinctNames_of_indexed indexed_empty
    ⟨Catalog.distinct_empty _, Catalog.distinct_empty _⟩ calls

end Script

end GpuScript
