import GpuScript.Proofs.Script.Uniqueness
import Mathlib.Data.List.Nodup

/-! The shaders that a script hands out to be compiled: one job for each pipeline that a shader is
attached to, and one for a shader that is attached to none. The name of a job joins the names of
pipeline and shader, so two jobs have the same name exactly when the joint can be read in two
ways. -/
namespace GpuScript

/-- What a job compiles: a shader, for a pipeline or for none. -/
structure JobSubject where
  shader : Id Shader
  pipeline : Option (Id Pipeline)

namespace Script

/-- A shader with a pipeline that it is attached to, or one that is attached to no pipeline. -/
def IsSubject (script : Script) (subject : JobSubject) : Prop :=
  ∃ shader, script.shaders.get? subject.shader = some shader ∧
    match subject.pipeline with
    | some id => ∃ pipeline, script.pipelines.get? id = some pipeline ∧
      ∃ attached ∈ pipeline.shaders, attached.shader = subject.shader
    | none => ∀ id pipeline, script.pipelines.get? id = some pipeline →
      ∀ attached ∈ pipeline.shaders, attached.shader ≠ subject.shader

def loneJob (shader : Shader) : ShaderJob :=
  { format := shader.format
    stage := shader.stage
    name := shader.name
    source := shader.source
    optimizations := []
    targetEnv := shader.targetEnv
    words := [] }

def job? (script : Script) (subject : JobSubject) : Option ShaderJob :=
  (script.shaders.get? subject.shader).bind fun shader =>
    match subject.pipeline with
    | some id => (script.pipelines.get? id).bind (attachedJob? subject.shader shader)
    | none => some (loneJob shader)

def attachments (script : Script) (shader : Id Shader) : List (Id Pipeline) :=
  (script.pipelines.store.idsFrom 0).filter fun id => (script.job? ⟨shader, some id⟩).isSome

def subjectsOf (script : Script) (shader : Id Shader) : List JobSubject :=
  match script.attachments shader with
  | [] => [⟨shader, none⟩]
  | pipelines => pipelines.map fun id => ⟨shader, some id⟩

/-- The subjects in the order of their jobs. -/
def subjects (script : Script) : List JobSubject :=
  (script.shaders.store.idsFrom 0).flatMap script.subjectsOf

variable {script : Script}

private theorem isSome_attachedJob? {id : Id Shader} {shader : Shader} {pipeline : Pipeline} :
    (attachedJob? id shader pipeline).isSome ↔
      ∃ attached ∈ pipeline.shaders, attached.shader = id := by
  simp [attachedJob?]

/-- A pair of a shader and a pipeline has a job where the shader is attached. -/
theorem isSome_job?_attached {shader : Id Shader} {pipeline : Id Pipeline} :
    (script.job? ⟨shader, some pipeline⟩).isSome ↔ script.IsSubject ⟨shader, some pipeline⟩ := by
  unfold job? IsSubject
  dsimp only
  cases script.shaders.get? shader with
  | none => simp
  | some held =>
    cases script.pipelines.get? pipeline with
    | none => simp
    | some work => simp [isSome_attachedJob?]

theorem mem_attachments {shader : Id Shader} {pipeline : Id Pipeline} :
    pipeline ∈ script.attachments shader ↔ script.IsSubject ⟨shader, some pipeline⟩ := by
  rw [attachments, List.mem_filter, isSome_job?_attached, Store.mem_idsFrom]
  refine and_iff_right_of_imp fun held => ?_
  obtain ⟨-, -, work, found, -⟩ := held
  exact Store.lt_size_of_get? found

private theorem isSubject_alone {id : Id Shader} {shader : Shader}
    (known : script.shaders.get? id = some shader) :
    script.IsSubject ⟨id, none⟩ ↔ script.attachments id = [] := by
  rw [List.eq_nil_iff_forall_not_mem]
  constructor
  · rintro ⟨-, -, free⟩ pipeline member
    obtain ⟨-, -, work, found, attached, listed, same⟩ := mem_attachments.mp member
    exact free pipeline work found attached listed same
  · intro bare
    refine ⟨shader, known, fun pipeline work found attached listed same => ?_⟩
    exact bare pipeline (mem_attachments.mpr ⟨shader, known, work, found, attached, listed, same⟩)

/-- The subjects with a shader of the script are all those that the shader is part of. -/
theorem mem_subjectsOf {id : Id Shader} {shader : Shader}
    (known : script.shaders.get? id = some shader) {subject : JobSubject} :
    subject ∈ script.subjectsOf id ↔ subject.shader = id ∧ script.IsSubject subject := by
  have listed : subject ∈ script.subjectsOf id ↔
      (script.attachments id = [] ∧ subject = ⟨id, none⟩) ∨
        ∃ pipeline ∈ script.attachments id, subject = ⟨id, some pipeline⟩ := by
    unfold subjectsOf
    cases script.attachments id <;> simp [eq_comm]
  rw [listed]
  constructor
  · rintro (⟨bare, rfl⟩ | ⟨pipeline, member, rfl⟩)
    · exact ⟨rfl, (isSubject_alone known).mpr bare⟩
    · exact ⟨rfl, mem_attachments.mp member⟩
  · obtain ⟨_, _ | pipeline⟩ := subject
    · rintro ⟨rfl, alone⟩
      exact .inl ⟨(isSubject_alone known).mp alone, rfl⟩
    · rintro ⟨rfl, attached⟩
      exact .inr ⟨pipeline, mem_attachments.mpr attached, rfl⟩

theorem mem_subjects {subject : JobSubject} :
    subject ∈ script.subjects ↔ script.IsSubject subject := by
  rw [subjects, List.mem_flatMap]
  constructor
  · rintro ⟨id, listed, member⟩
    have known := Array.getElem?_eq_getElem (Store.mem_idsFrom.mp listed)
    exact ((mem_subjectsOf known).mp member).2
  · intro held
    have ⟨shader, known, _⟩ := held
    exact ⟨_, Store.mem_idsFrom_zero known, (mem_subjectsOf known).mpr ⟨rfl, held⟩⟩

theorem nodup_subjectsOf (script : Script) (id : Id Shader) : (script.subjectsOf id).Nodup := by
  have distinct : (script.attachments id).Nodup := (Store.nodup_idsFrom _ 0).filter _
  unfold subjectsOf
  split
  · exact List.nodup_singleton _
  · refine distinct.map fun first second same => ?_
    injection same with _ same
    injection same

private theorem shader_of_mem_subjectsOf {id : Id Shader} {subject : JobSubject}
    (member : subject ∈ script.subjectsOf id) : subject.shader = id := by
  unfold subjectsOf at member
  split at member
  · rw [List.mem_singleton.mp member]
  · obtain ⟨-, -, rfl⟩ := List.mem_map.mp member
    rfl

theorem nodup_subjects (script : Script) : script.subjects.Nodup := by
  refine List.nodup_flatMap.mpr ⟨fun id _ => script.nodup_subjectsOf id, ?_⟩
  refine (Store.nodup_idsFrom _ 0).imp fun differ subject first second => differ ?_
  rw [← shader_of_mem_subjectsOf first, shader_of_mem_subjectsOf second]

/-- The jobs of a shader are those of the subjects with it, in the same order. -/
theorem map_job?_subjectsOf {id : Id Shader} {shader : Shader}
    (known : script.shaders.get? id = some shader) :
    (script.subjectsOf id).map script.job? = (script.jobsOf id shader).map some := by
  have step (pipeline : Id Pipeline) : script.job? ⟨id, some pipeline⟩ =
      (script.pipelines.store.get? pipeline).bind (attachedJob? id shader) := by
    rw [job?, known]
    rfl
  have paired : (script.attachments id).map (fun pipeline => script.job? ⟨id, some pipeline⟩) =
      (script.pipelines.store.toList.filterMap (attachedJob? id shader)).map some := by
    rw [← Store.filterMap_idsFrom, List.map_filterMap_some_eq_filter_map_isSome, List.filter_map]
    simp only [attachments, step]
    rfl
  unfold subjectsOf jobsOf
  split
  · rename_i bare
    rw [bare] at paired
    rw [List.map_eq_nil_iff.mp paired.symm]
    simp [job?, known, loneJob]
  · rename_i held
    split
    · rename_i bare
      rw [bare] at paired
      exact absurd (List.map_eq_nil_iff.mp paired) held
    · rw [List.map_map]
      exact paired

/-- The jobs of a script are those of its subjects, in the same order. -/
theorem map_job?_subjects (script : Script) :
    script.subjects.map script.job? = script.shaderJobs.map some := by
  rw [subjects, shaderJobs, List.map_flatMap, List.map_flatMap, List.flatMap_def, List.flatMap_def]
  exact congrArg List.flatten
    (Store.map_idsFrom fun _ _ known => map_job?_subjectsOf known)

def AttachedAs (script : Script) (pipeline shader : String) : Prop :=
  ∃ id other, script.IsSubject ⟨id, some other⟩ ∧
    script.shaders.nameAt? Shader.name id = some shader ∧
    script.pipelines.nameAt? Pipeline.name other = some pipeline

def AloneAs (script : Script) (shader : String) : Prop :=
  ∃ id, script.IsSubject ⟨id, none⟩ ∧ script.shaders.nameAt? Shader.name id = some shader

/-- No joined name can be read in two ways: as that of two attachments, or as that of an
attachment and of a shader. -/
structure NamesApart (script : Script) : Prop where
  attached : ∀ pipeline middle shader, script.AttachedAs pipeline (middle ++ "-" ++ shader) →
    ¬script.AttachedAs (pipeline ++ "-" ++ middle) shader
  alone : ∀ pipeline shader, script.AttachedAs pipeline shader →
    ¬script.AloneAs (pipeline ++ "-" ++ shader)

def jobName? (script : Script) (subject : JobSubject) : Option String :=
  (script.job? subject).map ShaderJob.name

theorem jobName?_alone (script : Script) (id : Id Shader) :
    script.jobName? ⟨id, none⟩ = script.shaders.nameAt? Shader.name id := by
  unfold jobName? job? Catalog.nameAt? Store.nameAt? Catalog.get?
  cases script.shaders.store.get? id <;> rfl

theorem jobName?_attached {id : Id Shader} {other : Id Pipeline}
    (subject : script.IsSubject ⟨id, some other⟩) :
    ∃ shader pipeline, script.shaders.nameAt? Shader.name id = some shader ∧
      script.pipelines.nameAt? Pipeline.name other = some pipeline ∧
      script.jobName? ⟨id, some other⟩ = some (pipeline ++ "-" ++ shader) := by
  obtain ⟨job, made⟩ := Option.isSome_iff_exists.mp (isSome_job?_attached.mpr subject)
  obtain ⟨shader, known, pipeline, found, -⟩ := subject
  refine ⟨shader.name, pipeline.name, ?_, ?_, ?_⟩
  · exact congrArg (Option.map Shader.name) known
  · exact congrArg (Option.map Pipeline.name) found
  · have paired : attachedJob? id shader pipeline = some job := by
      rw [job?, known] at made
      simpa [found] using made
    obtain ⟨attached, -, rfl⟩ := Option.map_eq_some_iff.mp paired
    rw [jobName?, made]
    rfl

end Script

/-- Two joined names are the same only if their parts are, or if one of the joints is inside of a
part of the other. -/
theorem joined_eq_joined {first last start rest : String}
    (same : first ++ "-" ++ last = start ++ "-" ++ rest) :
    (first = start ∧ last = rest) ∨
      (∃ middle, start = first ++ "-" ++ middle ∧ last = middle ++ "-" ++ rest) ∨
      ∃ middle, first = start ++ "-" ++ middle ∧ rest = middle ++ "-" ++ last := by
  have chars : first.toList ++ '-' :: last.toList = start.toList ++ '-' :: rest.toList := by
    simpa using congrArg String.toList same
  obtain ⟨_ | ⟨joint, middle⟩, head, tail⟩ | ⟨_ | ⟨joint, middle⟩, head, tail⟩ :=
    List.append_eq_append_iff.mp chars
  · exact .inl (by simp_all [String.ext_iff])
  · obtain ⟨rfl, after⟩ := List.cons.inj tail
    exact .inr (.inl ⟨String.ofList middle, by simp_all [String.ext_iff]⟩)
  · exact .inl (by simp_all [String.ext_iff])
  · obtain ⟨rfl, after⟩ := List.cons.inj tail
    exact .inr (.inr ⟨String.ofList middle, by simp_all [String.ext_iff]⟩)

namespace Script

variable {script : Script}

/-- The names of jobs differ from each other if those of subjects do. -/
theorem nodup_names_iff : (script.shaderJobs.map ShaderJob.name).Nodup ↔
    ∀ first second, script.IsSubject first → script.IsSubject second →
      script.jobName? first = script.jobName? second → first = second := by
  have names : (script.shaderJobs.map ShaderJob.name).map some =
      script.subjects.map script.jobName? := by
    have jobs := congrArg (List.map (Option.map ShaderJob.name)) script.map_job?_subjects
    rw [List.map_map, List.map_map] at jobs
    rw [List.map_map]
    exact jobs.symm
  rw [← List.nodup_map_iff (fun _ _ => Option.some.inj), names,
    List.nodup_map_iff_inj_on script.nodup_subjects]
  simp only [mem_subjects]
  exact ⟨fun same first second member other => same first member second other,
    fun same first member second other => same first second member other⟩

theorem AttachedAs.exists_jobName {pipeline shader : String}
    (attached : script.AttachedAs pipeline shader) :
    ∃ id other, script.IsSubject ⟨id, some other⟩ ∧
      script.pipelines.nameAt? Pipeline.name other = some pipeline ∧
      script.jobName? ⟨id, some other⟩ = some (pipeline ++ "-" ++ shader) := by
  obtain ⟨id, other, subject, first, second⟩ := attached
  obtain ⟨_, _, called, named, joined⟩ := jobName?_attached subject
  cases first.symm.trans called
  cases second.symm.trans named
  exact ⟨id, other, subject, second, joined⟩

/-- If the names of jobs differ from each other, every joined name can be read in one way only. -/
theorem namesApart_of_nodup (distinct : (script.shaderJobs.map ShaderJob.name).Nodup) :
    script.NamesApart := by
  rw [nodup_names_iff] at distinct
  constructor
  · intro pipeline middle shader first second
    obtain ⟨_, _, left, outer, name⟩ := first.exists_jobName
    obtain ⟨_, _, right, inner, other⟩ := second.exists_jobName
    cases distinct _ _ left right (by rw [name, other]; simp only [String.append_assoc])
    -- the pipeline would have a name and a longer one
    have same := congrArg String.length (Option.some.inj (outer.symm.trans inner))
    simp only [String.length_append] at same
    have joint : "-".length = 1 := rfl
    omega
  · rintro pipeline shader first ⟨id, right, other⟩
    obtain ⟨_, _, left, -, name⟩ := first.exists_jobName
    rw [← jobName?_alone] at other
    cases distinct _ _ left right (name.trans other.symm)

/-- The job of an attached shader does not have the name of a shader that is attached nowhere. -/
theorem NamesApart.jobName?_ne (apart : script.NamesApart) {id other : Id Shader}
    {pipeline : Id Pipeline} (attached : script.IsSubject ⟨id, some pipeline⟩)
    (alone : script.IsSubject ⟨other, none⟩) :
    script.jobName? ⟨id, some pipeline⟩ ≠ script.jobName? ⟨other, none⟩ := by
  intro same
  obtain ⟨shader, name, first, second, joined⟩ := jobName?_attached attached
  rw [joined, jobName?_alone] at same
  exact apart.alone name shader ⟨id, pipeline, attached, first, second⟩ ⟨other, alone, same.symm⟩

/-- If names are unique and every joined name can be read in one way only, the names of jobs
differ from each other. -/
theorem NamesApart.nodup (apart : script.NamesApart) (unique : script.DistinctNames) :
    (script.shaderJobs.map ShaderJob.name).Nodup := by
  rw [nodup_names_iff]
  rintro ⟨id, _ | pipeline⟩ ⟨other, _ | work⟩ left right same
  · have ⟨shader, known, _⟩ := left
    rw [jobName?_alone, jobName?_alone] at same
    have named : script.shaders.nameAt? Shader.name id = some shader.name :=
      congrArg (Option.map Shader.name) known
    rw [unique.shaders id other _ named (same.symm.trans named)]
  · exact absurd same.symm (apart.jobName?_ne right left)
  · exact absurd same (apart.jobName?_ne left right)
  · obtain ⟨shader, name, first, second, joined⟩ := jobName?_attached left
    obtain ⟨shader', name', first', second', joined'⟩ := jobName?_attached right
    have attached : script.AttachedAs name shader := ⟨id, pipeline, left, first, second⟩
    have attached' : script.AttachedAs name' shader' := ⟨other, work, right, first', second'⟩
    rw [joined, joined', Option.some.injEq] at same
    obtain ⟨rfl, rfl⟩ | ⟨middle, rfl, rfl⟩ | ⟨middle, rfl, rfl⟩ := joined_eq_joined same
    · rw [unique.shaders id other _ first first', unique.pipelines pipeline work _ second second']
    · exact absurd attached' (apart.attached _ _ _ attached)
    · exact absurd attached (apart.attached _ _ _ attached')

/-- Shaders without a joint in their names leave one reading only: what follows the last joint of
a joined name. -/
theorem namesApart_of_plain
    (plain : ∀ id name, script.shaders.nameAt? Shader.name id = some name → '-' ∉ name.toList) :
    script.NamesApart := by
  constructor
  · rintro pipeline middle shader ⟨id, _, -, named, -⟩ -
    exact plain id _ named (by simp)
  · rintro pipeline shader - ⟨id, -, named⟩
    exact plain id _ named (by simp)

/-- After any calls, every attachment of a shader has exactly one job and so has every shader that
is attached to no pipeline, and there are no others. The jobs have names of their own exactly if
no joined name can be read in two ways. -/
theorem shaderJobs_exact (calls : List Call) :
    let script := perform {} calls
    (∃ subjects : List JobSubject, subjects.Nodup ∧
      (∀ subject, subject ∈ subjects ↔ script.IsSubject subject) ∧
      subjects.map script.job? = script.shaderJobs.map some) ∧
      ((script.shaderJobs.map ShaderJob.name).Nodup ↔ script.NamesApart) := by
  intro script
  refine ⟨⟨script.subjects, script.nodup_subjects, fun _ => mem_subjects, script.map_job?_subjects⟩,
    namesApart_of_nodup, fun apart => apart.nodup ?_⟩
  exact distinctNames_perform calls

/-- Two attachments with one joined name, of names that are all unique. -/
theorem shaderJobs_same_name :
    let short : Shader := { name := "c", stage := .vertex }
    let long : Shader := { name := "b-c", stage := .vertex }
    let attached (name : String) (id : Id Shader) (shader : Shader) : Pipeline :=
      ((Pipeline.attachShader id shader .vertex).apply { name := name, kind := .graphics }).2
    let script := perform {} [.addShader short, .addShader long,
      .addPipeline (attached "a" ⟨1⟩ long), .addPipeline (attached "a-b" ⟨0⟩ short)]
    script.DistinctNames ∧ script.shaderJobs.map ShaderJob.name = ["a-b-c", "a-b-c"] ∧
      ¬(script.shaderJobs.map ShaderJob.name).Nodup := by
  intro short long attached script
  have names : script.shaderJobs.map ShaderJob.name = ["a-b-c", "a-b-c"] := by
    decide +revert +kernel
  refine ⟨distinctNames_perform _, names, ?_⟩
  rw [names]
  decide

end Script

end GpuScript
