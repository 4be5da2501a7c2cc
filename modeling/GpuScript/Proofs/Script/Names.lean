import GpuScript.Proofs.Script.Copies
import GpuScript.Proofs.Section.Upkeep

/-! Names of a script's items. In every script that calls lead to, also calls that fail, the indices
of pipelines and shaders are complete; those of buffers and samplers are complete exactly when no
copying or preparing has failed between making an item and naming it. -/
namespace GpuScript

namespace Workbench

private theorem extends_makeSamplers (bindings : List SamplerBinding) (samplers : Store Sampler) :
    Store.Extends Sampler.name samplers (makeSamplers samplers bindings).2.1 := by
  induction bindings generalizing samplers with
  | nil => exact .refl Sampler.name samplers
  | cons binding rest ih =>
    rw [makeSamplers]
    split
    · exact ih samplers
    · exact (Store.extends_push Sampler.name samplers _).trans (ih _)

/-- A bench that has grown from another one, with all names as they were. -/
structure KeepsNames (start bench : Workbench) : Prop where
  pipeline : bench.pipeline.name = start.pipeline.name
  buffers : Store.Extends Buffer.name start.buffers bench.buffers
  samplers : Store.Extends Sampler.name start.samplers bench.samplers

theorem enduring_keepsNames (start : Workbench) : Enduring (KeepsNames start) where
  pushConstants bench _ kept :=
    ⟨kept.pipeline, kept.buffers.trans (Store.extends_push _ _ _), kept.samplers⟩
  arguments bench _ _ _ kept :=
    ⟨kept.pipeline, kept.buffers.trans (Store.extends_push _ _ _), kept.samplers⟩
  contents bench id buffer after _ found same kept := by
    have name := congrArg Buffer.name same
    exact ⟨kept.pipeline, kept.buffers.trans (Store.extends_set found name), kept.samplers⟩
  sampled _ _ kept := ⟨kept.pipeline, kept.buffers, kept.samplers⟩
  bound _ _ kept := ⟨kept.pipeline, kept.buffers, kept.samplers⟩
  literals _ kept :=
    ⟨kept.pipeline, kept.buffers, kept.samplers.trans (extends_makeSamplers _ _)⟩

theorem Stocks.extends {start : Store Buffer} {bench : Workbench} (stocks : Stocks start bench) :
    Store.Extends Buffer.name start bench.buffers := by
  intro id name named
  rw [Store.nameAt?, stocks.older id (Store.lt_size_of_nameAt? named)]
  exact named

end Workbench

namespace Script

/-- A script has got more items, and their names are in the indices. -/
structure Declares (before after : Script) : Prop where
  pipelines : Catalog.Declares Pipeline.name before.pipelines after.pipelines
  shaders : Catalog.Declares Shader.name before.shaders after.shaders
  buffers : Catalog.Declares Buffer.name before.buffers after.buffers
  samplers : Catalog.Declares Sampler.name before.samplers after.samplers

theorem Declares.refl (script : Script) : Declares script script :=
  ⟨.refl _ _, .refl _ _, .refl _ _, .refl _ _⟩

theorem Declares.trans {before between after : Script} (left : Declares before between)
    (right : Declares between after) : Declares before after where
  pipelines := left.pipelines.trans right.pipelines
  shaders := left.shaders.trans right.shaders
  buffers := left.buffers.trans right.buffers
  samplers := left.samplers.trans right.samplers

/-- A script has got more buffers and samplers behind their indices. -/
structure Gathers (before after : Script) : Prop where
  pipelines : Catalog.Declares Pipeline.name before.pipelines after.pipelines
  shaders : after.shaders = before.shaders
  buffers : Catalog.Gathers Buffer.name before.buffers after.buffers
  samplers : Catalog.Gathers Sampler.name before.samplers after.samplers

theorem Gathers.refl (script : Script) : Gathers script script :=
  ⟨.refl _ _, rfl, .refl _ _, .refl _ _⟩

theorem Gathers.trans {before between after : Script} (left : Gathers before between)
    (right : Gathers between after) : Gathers before after where
  pipelines := left.pipelines.trans right.pipelines
  shaders := right.shaders.trans left.shaders
  buffers := left.buffers.trans right.buffers
  samplers := left.samplers.trans right.samplers

theorem lasting_declares (start : Script) : Lasting (Declares start) where
  add script buffer _ declared := declared.trans
    ⟨.refl _ _, .refl _ _, Catalog.declares_declare script.buffers buffer, .refl _ _⟩
  fill _ _ _ _ found same declared := declared.trans
    ⟨.refl _ _, .refl _ _, (Catalog.sameNames_set found same).declares, .refl _ _⟩
  rebind script id _ same declared := declared.trans
    ⟨(Catalog.sameNames_modify script.pipelines id same).declares, .refl _ _, .refl _ _,
      .refl _ _⟩
  format _ _ declared := ⟨declared.pipelines, declared.shaders, declared.buffers, declared.samplers⟩
  type _ _ declared := ⟨declared.pipelines, declared.shaders, declared.buffers, declared.samplers⟩

/-- Copying that fails before the new buffers are named leaves them behind the index; all other
copying names them. -/
theorem declares_copyPipeline (source : Id Pipeline) (name : String) (script : Script) :
    Declares script ((copyPipeline source name).apply script).2 ∨
      ∃ fault after, (copyPipeline source name).apply script = (.error fault, after) ∧
        Gathers script after := by
  cases found : script.pipelines.get? source with
  | none =>
    left
    rw [apply_copyPipeline_unknown found]
    exact .refl script
  | some pipeline =>
    obtain ⟨outcome, made, stocks, -, ran⟩ := copyPipeline_parts found name
    have gathered : Catalog.Gathers Buffer.name script.buffers
        (script.withBuffers made.buffers).buffers := ⟨stocks.extends, rfl⟩
    cases outcome with
    | error fault => exact .inr ⟨fault, _, ran, .refl _ _, rfl, gathered, .refl _ _⟩
    | ok copy =>
      left
      rw [ran]
      have named : Declares script
          ((script.withBuffers made.buffers).indexBuffers script.buffers.store.size) :=
        ⟨.refl _ _, .refl _ _, gathered.declares_indexFrom, .refl _ _⟩
      exact named.trans ⟨Catalog.declares_add "pipeline" copy _, .refl _ _, .refl _ _, .refl _ _⟩

private theorem gathers_onBench (start : Script) (id : Id Pipeline) :
    Edit.Maintains (Gathers start) (onBench id Workbench.prepareKernel) := by
  refine maintains_onBench fun script pipeline found gathered => gathered.trans ?_
  have begun : Workbench.KeepsNames (script.benchOf pipeline) (script.benchOf pipeline) :=
    ⟨rfl, .refl _ _, .refl _ _⟩
  have kept := Workbench.maintains_prepareKernel (Workbench.enduring_keepsNames _) _ begun
  exact ⟨(Catalog.sameNames_set found kept.pipeline).declares, rfl, ⟨kept.buffers, rfl⟩,
    ⟨kept.samplers, rfl⟩⟩

/-- Preparing that fails leaves the new buffers and samplers behind their indices, and preparing
that succeeds names them. -/
theorem declares_prepareKernels (script : Script) :
    Declares script (prepareKernels.apply script).2 ∨
      ∃ fault after, prepareKernels.apply script = (.error fault, after) ∧
        Gathers script after := by
  rw [prepareKernels, Edit.apply_bind_of_ok (Edit.apply_get script)]
  have gathered : Edit.Maintains (Gathers script)
      ((script.pipelines.store.idsFrom 0).forM fun id => onBench id Workbench.prepareKernel) :=
    Edit.maintains_forM fun id _ => gathers_onBench script id
  have kept := gathered script (.refl script)
  cases ran : ((script.pipelines.store.idsFrom 0).forM fun id =>
      onBench id Workbench.prepareKernel).apply script with
  | mk outcome after =>
    rw [ran] at kept
    cases outcome with
    | error fault =>
      right
      exact ⟨fault, after, Edit.apply_bind_of_error ran _, kept⟩
    | ok done =>
      left
      rw [Edit.apply_bind_of_ok ran]
      exact ⟨kept.pipelines, kept.shaders ▸ .refl _ _, kept.buffers.declares_indexFrom,
        kept.samplers.declares_indexFrom⟩

/-- A script has become another with the names of all items as they were. -/
structure SameNames (before after : Script) : Prop where
  pipelines : Catalog.SameNames Pipeline.name before.pipelines after.pipelines
  shaders : Catalog.SameNames Shader.name before.shaders after.shaders
  buffers : Catalog.SameNames Buffer.name before.buffers after.buffers
  samplers : Catalog.SameNames Sampler.name before.samplers after.samplers

/-- What can be done with a script. -/
inductive Call where
  | addPipeline (pipeline : Pipeline)
  | addShader (shader : Shader)
  | addBuffer (buffer : Buffer)
  | addSampler (sampler : Sampler)
  | addBottomLevel (bottom : BottomLevel)
  | addTopLevel (top : TopLevel)
  | addType (name : String) (type : ElementType)
  | copyPipeline (source : Id Pipeline) (name : String)
  | prepareKernels
  | readSection (pipeline : Id Pipeline) (line : Nat) (text : String)
  /-- Whatever else is done without renaming anything. -/
  | amend (change : Script → Script) (same : ∀ script, SameNames script (change script))

def Call.apply (script : Script) : Call → Script
  | .addPipeline pipeline => ((Script.addPipeline pipeline).apply script).2
  | .addShader shader => ((Script.addShader shader).apply script).2
  | .addBuffer buffer => ((Script.addBuffer buffer).apply script).2
  | .addSampler sampler => ((Script.addSampler sampler).apply script).2
  | .addBottomLevel bottom => ((Script.addBottomLevel bottom).apply script).2
  | .addTopLevel top => ((Script.addTopLevel top).apply script).2
  | .addType name type => ((Script.addType name type).apply script).2
  | .copyPipeline source name => ((Script.copyPipeline source name).apply script).2
  | .prepareKernels => (Script.prepareKernels.apply script).2
  | .readSection pipeline line text => (script.readSection pipeline line text).2.script
  | .amend change _ => change script

/-- The script after calls one after the other, each of which may fail without stopping the next. -/
def perform (script : Script) : List Call → Script
  | [] => script
  | call :: rest => (call.apply script).perform rest

/-- A new buffer or a new sampler has a name that is not in the index. -/
def LeavesUnnamed (before after : Script) : Prop :=
  ¬(after.buffers.NamedFrom Buffer.name before.buffers.store.size ∧
    after.samplers.NamedFrom Sampler.name before.samplers.store.size)

/-- A call that makes buffers or samplers fails before it has named them all. -/
def Call.Abandons (script : Script) : Call → Prop
  | .copyPipeline source name => ∃ fault after,
    (Script.copyPipeline source name).apply script = (.error fault, after) ∧
      LeavesUnnamed script after
  | .prepareKernels => ∃ fault after,
    Script.prepareKernels.apply script = (.error fault, after) ∧ LeavesUnnamed script after
  | _ => False

/-- What every call does: it declares pipelines and shaders, and it makes buffers and samplers, some
of which it may have abandoned. -/
structure Advances (before after : Script) (abandoned : Prop) : Prop where
  pipelines : Catalog.Declares Pipeline.name before.pipelines after.pipelines
  shaders : Catalog.Declares Shader.name before.shaders after.shaders
  buffers : Catalog.Grows Buffer.name before.buffers after.buffers
  samplers : Catalog.Grows Sampler.name before.samplers after.samplers
  exact : abandoned ↔ LeavesUnnamed before after

theorem Declares.named {before after : Script} (declares : Declares before after) :
    ¬LeavesUnnamed before after :=
  not_not_intro ⟨declares.buffers.named, declares.samplers.named⟩

theorem Declares.advances {before after : Script} (declares : Declares before after) :
    Advances before after False :=
  ⟨declares.pipelines, declares.shaders, declares.buffers.toGrows, declares.samplers.toGrows,
    iff_of_false id declares.named⟩

/-- A call that either names what it makes or fails and leaves it behind the indices. -/
theorem advances_of_run {Result : Type} {run : Except Fault Result × Script} {before : Script}
    (ends : Declares before run.2 ∨ ∃ fault after, run = (.error fault, after) ∧
      Gathers before after) :
    Advances before run.2
      (∃ fault after, run = (.error fault, after) ∧ LeavesUnnamed before after) := by
  rcases ends with declares | ⟨fault, after, rfl, gathers⟩
  · refine ⟨declares.pipelines, declares.shaders, declares.buffers.toGrows,
      declares.samplers.toGrows, iff_of_false ?_ declares.named⟩
    rintro ⟨fault, after, rfl, unnamed⟩
    exact declares.named unnamed
  · refine ⟨gathers.pipelines, gathers.shaders ▸ .refl _ _, gathers.buffers.grows,
      gathers.samplers.grows, ?_⟩
    constructor
    · rintro ⟨fault, after, same, unnamed⟩
      cases same
      exact unnamed
    · exact fun unnamed => ⟨fault, after, rfl, unnamed⟩

theorem Call.advances (call : Call) (script : Script) :
    Advances script (call.apply script) (call.Abandons script) := by
  cases call with
  | addPipeline pipeline =>
    exact Declares.advances
      ⟨Catalog.declares_add "pipeline" pipeline _, .refl _ _, .refl _ _, .refl _ _⟩
  | addShader shader =>
    exact Declares.advances
      ⟨.refl _ _, Catalog.declares_add "shader" shader _, .refl _ _, .refl _ _⟩
  | addBuffer buffer =>
    exact Declares.advances
      ⟨.refl _ _, .refl _ _, Catalog.declares_add "buffer" buffer _, .refl _ _⟩
  | addSampler sampler =>
    exact Declares.advances
      ⟨.refl _ _, .refl _ _, .refl _ _, Catalog.declares_add "sampler" sampler _⟩
  | addBottomLevel bottom =>
    exact Declares.advances ⟨.refl _ _, .refl _ _, .refl _ _, .refl _ _⟩
  | addTopLevel top => exact Declares.advances ⟨.refl _ _, .refl _ _, .refl _ _, .refl _ _⟩
  | addType name type =>
    have spared : Edit.Secures (Declares script) (Script.addType name type) :=
      Edit.secures_checked fun _ _ declared =>
        ⟨declared.pipelines, declared.shaders, declared.buffers, declared.samplers⟩
    exact (spared.maintains script (.refl script)).advances
  | copyPipeline source name => exact advances_of_run (declares_copyPipeline source name script)
  | prepareKernels => exact advances_of_run (declares_prepareKernels script)
  | readSection pipeline line text =>
    exact ((lasting_declares script).readSection (.refl script) pipeline line text).advances
  | amend change same =>
    have kept := same script
    exact Declares.advances ⟨kept.pipelines.declares, kept.shaders.declares,
      kept.buffers.declares, kept.samplers.declares⟩

/-- No call of a run abandons what it makes. -/
def NoneAbandoned (script : Script) (calls : List Call) : Prop :=
  ∀ earlier call later, calls = earlier ++ call :: later →
    ¬call.Abandons (script.perform earlier)

theorem noneAbandoned_cons {script : Script} {call : Call} {rest : List Call} :
    NoneAbandoned script (call :: rest) ↔
      ¬call.Abandons script ∧ NoneAbandoned (call.apply script) rest := by
  constructor
  · intro none
    refine ⟨none [] call rest rfl, fun earlier other later same => ?_⟩
    exact none (call :: earlier) other later (congrArg (call :: ·) same)
  · rintro ⟨first, others⟩ earlier other later same
    cases earlier with
    | nil =>
      cases same
      exact first
    | cons head tail =>
      cases same
      exact others tail other later rfl

/-- The indices of pipelines and shaders are complete, and those of buffers and samplers lead to
items of the names. -/
structure Indexed (script : Script) : Prop where
  pipelines : script.pipelines.Complete Pipeline.name
  shaders : script.shaders.Complete Shader.name
  buffers : script.buffers.Sound Buffer.name
  samplers : script.samplers.Sound Sampler.name

theorem Advances.indexed {before after : Script} {abandoned : Prop}
    (advances : Advances before after abandoned) (indexed : Indexed before) : Indexed after where
  pipelines := (advances.pipelines.complete_iff indexed.pipelines.sound).mpr
    ⟨indexed.pipelines, advances.pipelines.named⟩
  shaders := (advances.shaders.complete_iff indexed.shaders.sound).mpr
    ⟨indexed.shaders, advances.shaders.named⟩
  buffers := advances.buffers.sound indexed.buffers
  samplers := advances.samplers.sound indexed.samplers

def MadeComplete (script : Script) : Prop :=
  script.buffers.Complete Buffer.name ∧ script.samplers.Complete Sampler.name

/-- A call breaks complete indices exactly when it abandons what it makes, and mends no others. -/
theorem Advances.madeComplete_iff {before after : Script} {abandoned : Prop}
    (advances : Advances before after abandoned) (indexed : Indexed before) :
    MadeComplete after ↔ MadeComplete before ∧ ¬abandoned := by
  rw [MadeComplete, advances.buffers.complete_iff indexed.buffers,
    advances.samplers.complete_iff indexed.samplers, advances.exact, LeavesUnnamed,
    Classical.not_not, MadeComplete]
  constructor
  · rintro ⟨⟨buffers, namedBuffers⟩, samplers, namedSamplers⟩
    exact ⟨⟨buffers, samplers⟩, namedBuffers, namedSamplers⟩
  · rintro ⟨⟨buffers, samplers⟩, namedBuffers, namedSamplers⟩
    exact ⟨⟨buffers, namedBuffers⟩, samplers, namedSamplers⟩

theorem indexed_perform {script : Script} (indexed : Indexed script) (calls : List Call) :
    Indexed (script.perform calls) ∧
      (MadeComplete (script.perform calls) ↔ MadeComplete script ∧ NoneAbandoned script calls) := by
  induction calls generalizing script with
  | nil =>
    refine ⟨indexed, ⟨fun complete => ⟨complete, ?_⟩, And.left⟩⟩
    rintro earlier call later same
    cases earlier <;> cases same
  | cons call rest ih =>
    have advances := call.advances script
    obtain ⟨kept, exact⟩ := ih (advances.indexed indexed)
    refine ⟨kept, exact.trans ?_⟩
    rw [advances.madeComplete_iff indexed, noneAbandoned_cons, and_assoc]

theorem complete_empty {Item : Type} (nameOf : Item → String) :
    Catalog.Complete nameOf ({} : Catalog Item) := by
  constructor
  · intro name id leads
    cases leads
  · intro id name named
    cases named

/-- In every script that calls lead to, a name leads exactly to the first pipeline or shader that
has it; it leads exactly to the first buffer or sampler that has it when no copying or preparing has
failed before it named what it had made. -/
theorem complete_iff_noneAbandoned (calls : List Call) :
    (perform {} calls).pipelines.Complete Pipeline.name ∧
      (perform {} calls).shaders.Complete Shader.name ∧
      ((perform {} calls).buffers.Complete Buffer.name ∧
          (perform {} calls).samplers.Complete Sampler.name ↔
        NoneAbandoned {} calls) := by
  have empty : Indexed {} :=
    ⟨complete_empty _, complete_empty _, (complete_empty _).sound, (complete_empty _).sound⟩
  obtain ⟨indexed, exact⟩ := indexed_perform empty calls
  have made : MadeComplete {} := ⟨complete_empty _, complete_empty _⟩
  exact ⟨indexed.pipelines, indexed.shaders, exact.trans (and_iff_right made)⟩

/-- Preparing a kernel whose second argument has no entry fails when the buffer for the first one is
made: its name is not in the index. -/
theorem complete_iff_noneAbandoned_kernel :
    let argument : ArgumentEntry := { name := "scale", kind := .pod, size := 1 }
    let kernel : AttachedShader :=
      { shader := ⟨0⟩
        name := "double"
        format := .openClC
        stage := .compute
        argumentMap := [("main", [argument])] }
    let work : Pipeline :=
      { name := "work"
        kind := .compute
        shaders := [kernel]
        argumentValues :=
          [⟨"scale", 0, .unsignedByte, .integer 2⟩, ⟨"shift", 1, .unsignedByte, .integer 3⟩] }
    let script := perform {} [.addPipeline work, .prepareKernels]
    script.buffers.nameAt? Buffer.name ⟨0⟩ = some "work_pod_buffer_0_0" ∧
      script.buffers.id? "work_pod_buffer_0_0" = none ∧ ¬script.buffers.Complete Buffer.name := by
  intro argument kernel work script
  have made : script.buffers.nameAt? Buffer.name ⟨0⟩ = some "work_pod_buffer_0_0" := by
    decide +revert +kernel
  have unnamed : script.buffers.id? "work_pod_buffer_0_0" = none := by
    clear made
    decide +revert +kernel
  refine ⟨made, unnamed, fun complete => ?_⟩
  have named := complete.named ⟨0⟩ _ made
  rw [unnamed] at named
  cases named

end Script

end GpuScript
