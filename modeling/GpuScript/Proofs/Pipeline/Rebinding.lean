import GpuScript.Proofs.Pipeline.Bindings
import Mathlib.Data.List.Induction

namespace GpuScript

/-- An argument of a kernel, by its name or by its number. -/
inductive KernelArgument where
  | named (name : String)
  | numbered (number : Nat)
  deriving DecidableEq

namespace KernelArgument

/-- The empty name and the largest number stand for no argument. -/
def Proper : KernelArgument → Prop
  | named name => name ≠ ""
  | numbered number => number ≠ wordMax

/-- A binding is one to the argument. -/
def owns (argument : KernelArgument) (binding : BufferBinding) : Bool :=
  match argument with
  | named name => binding.argumentName == name
  | numbered number => binding.argumentNumber == number

def binding (argument : KernelArgument) (buffer : Id Buffer) (kind : BufferKind) : BufferBinding :=
  match argument with
  | named name => { buffer, kind, slot := .unbound, argumentName := name }
  | numbered number => { buffer, kind, slot := .unbound, argumentNumber := number }

end KernelArgument

namespace BufferBinding

def placed (buffer : Id Buffer) (kind : BufferKind) (slot : BindingSlot) : BufferBinding :=
  { buffer, kind, slot }

private def rebound (item : BufferBinding) (buffer : Id Buffer) : BufferBinding :=
    { item with buffer }

def isFree (item : BufferBinding) : Bool :=
  item.argumentName == "" && item.argumentNumber == wordMax

/-- A binding that is one to a name or to a number, not to both. -/
def Single (item : BufferBinding) : Prop :=
  item.argumentName = "" ∨ item.argumentNumber = wordMax

end BufferBinding

/-- A call that binds a buffer of some kind at a slot or to an argument. -/
inductive BindingCall where
  | atSlot (buffer : Id Buffer) (kind : BufferKind) (slot : BindingSlot)
  | toArgument (argument : KernelArgument) (buffer : Id Buffer) (kind : BufferKind)

namespace BindingCall

def change : BindingCall → Pipeline.Change
  | atSlot buffer kind slot => .addBuffer (.placed buffer kind slot)
  | toArgument (.named name) buffer kind => .bindBufferByName buffer kind name
  | toArgument (.numbered number) buffer kind => .bindBufferByNumber buffer kind number

def Proper : BindingCall → Prop
  | atSlot .. => True
  | toArgument argument .. => argument.Proper

def placed? : BindingCall → Option BufferBinding
  | atSlot buffer kind slot => some (.placed buffer kind slot)
  | toArgument .. => none

/-- The buffer that is bound to an argument, and as what. -/
def given? (argument : KernelArgument) : BindingCall → Option (Id Buffer × BufferKind)
  | atSlot .. => none
  | toArgument other buffer kind => if other = argument then some (buffer, kind) else none

end BindingCall

def Pipeline.bindAll (pipeline : Pipeline) (calls : List BindingCall) : Pipeline :=
  calls.foldl (fun bound call => call.change.apply bound) pipeline

/-- The last buffer of those that are bound to one argument, and what the first one is bound as. -/
def lastGiven? (given : List (Id Buffer × BufferKind)) : Option (Id Buffer × BufferKind) :=
  given.head?.bind fun first => given.getLast?.map fun last => (last.1, first.2)

theorem lastGiven?_concat (given : List (Id Buffer × BufferKind)) (buffer : Id Buffer)
    (kind : BufferKind) :
    lastGiven? (given ++ [(buffer, kind)]) =
      some (buffer, ((lastGiven? given).map Prod.snd).getD kind) := by
  cases given with
  | nil => rfl
  | cons first rest =>
    have last : (first :: rest ++ [(buffer, kind)]).getLast? = some (buffer, kind) :=
      List.getLast?_concat
    rw [lastGiven?, last, lastGiven?, List.getLast?_cons]
    rfl

namespace KernelArgument

variable {argument other : KernelArgument} {item : BufferBinding}

private theorem owns_binding (argument : KernelArgument) (buffer : Id Buffer) (kind : BufferKind) :
    argument.owns (argument.binding buffer kind) = true := by
  cases argument <;> exact beq_self_eq_true _

private theorem owns_rebound (argument : KernelArgument) (buffer : Id Buffer)
    (item : BufferBinding) :
    argument.owns (item.rebound buffer) = argument.owns item := by
  cases argument <;> rfl

theorem single_binding (argument : KernelArgument) (buffer : Id Buffer) (kind : BufferKind) :
    (argument.binding buffer kind).Single := by
  cases argument with
  | named name => exact .inr rfl
  | numbered number => exact .inl rfl

theorem Proper.apart (proper : argument.Proper) (single : item.Single)
    (owns : argument.owns item = true) (second : other.Proper) (different : argument ≠ other) :
    other.owns item = false := by
  cases argument with
  | named name =>
    have own : item.argumentName = name := beq_iff_eq.mp owns
    cases other with
    | named further =>
      exact beq_false_of_ne fun same => different (congrArg named (own.symm.trans same))
    | numbered number =>
      have unnumbered : item.argumentNumber = wordMax := single.resolve_left (own ▸ proper)
      exact beq_false_of_ne fun same => second (same.symm.trans unnumbered)
  | numbered number =>
    have own : item.argumentNumber = number := beq_iff_eq.mp owns
    cases other with
    | named name =>
      have unnamed : item.argumentName = "" := single.resolve_right (own ▸ proper)
      exact beq_false_of_ne fun same => second (same.symm.trans unnamed)
    | numbered further =>
      exact beq_false_of_ne fun same => different (congrArg numbered (own.symm.trans same))

theorem Proper.isFree_eq_false (proper : argument.Proper) (owns : argument.owns item = true) :
    item.isFree = false := by
  cases argument <;> simp_all [KernelArgument.owns, Proper, BufferBinding.isFree]

end KernelArgument

namespace BindingCall

private theorem buffers_toArgument (argument : KernelArgument) (buffer : Id Buffer)
    (kind : BufferKind)
    (pipeline : Pipeline) :
    ((toArgument argument buffer kind).change.apply pipeline).buffers =
      Pipeline.upsert argument.owns (·.rebound buffer)
        (argument.binding buffer kind) pipeline.buffers := by
  cases argument <;> rfl

end BindingCall

/-- The bindings that calls leave. -/
private structure BoundBy (calls : List BindingCall) (bindings : List BufferBinding) : Prop where
  single : ∀ binding ∈ bindings, binding.Single
  placed : bindings.filter (·.isFree) = calls.filterMap (·.placed?)
  given : ∀ argument : KernelArgument, argument.Proper →
    bindings.filter argument.owns =
      (lastGiven? (calls.filterMap (·.given? argument))).toList.map fun last =>
        argument.binding last.1 last.2

namespace BoundBy

variable {calls : List BindingCall} {bindings : List BufferBinding}

private theorem nil : BoundBy [] [] := ⟨List.forall_mem_nil _, rfl, fun _ _ => rfl⟩

private theorem atSlot (bound : BoundBy calls bindings) (buffer : Id Buffer) (kind : BufferKind)
    (slot : BindingSlot) :
    BoundBy (calls ++ [.atSlot buffer kind slot]) (bindings ++ [.placed buffer kind slot]) := by
  refine ⟨?_, ?_, fun argument proper => ?_⟩
  · exact List.forall_mem_append.mpr ⟨bound.single, List.forall_mem_singleton.mpr (.inl rfl)⟩
  · rw [List.filter_append, List.filterMap_append, bound.placed]
    rfl
  · have other : argument.owns (.placed buffer kind slot) = false :=
      Bool.eq_false_iff.mpr fun owns => nomatch proper.isFree_eq_false owns
    rw [List.filter_append, List.filterMap_append, bound.given argument proper,
      List.filter_cons_of_neg (Bool.eq_false_iff.mp other)]
    simp [BindingCall.given?]

private theorem toArgument (bound : BoundBy calls bindings) {argument : KernelArgument}
    (proper : argument.Proper) (buffer : Id Buffer) (kind : BufferKind) :
    BoundBy (calls ++ [.toArgument argument buffer kind])
      (Pipeline.upsert argument.owns (·.rebound buffer)
        (argument.binding buffer kind) bindings) := by
  refine ⟨?_, ?_, fun other second => ?_⟩
  · exact Pipeline.forall_mem_upsert bound.single (fun _ single => single)
      (argument.single_binding buffer kind)
  · have free : (Pipeline.upsert argument.owns (·.rebound buffer)
        (argument.binding buffer kind) bindings).filter (·.isFree) =
          bindings.filter (·.isFree) :=
      Pipeline.filter_upsert_of_apart (fun _ => rfl)
        (fun _ _ owns => proper.isFree_eq_false owns)
        (proper.isFree_eq_false (argument.owns_binding buffer kind))
    rw [free, bound.placed, List.filterMap_append]
    exact (List.append_nil _).symm
  · rw [List.filterMap_append]
    by_cases same : argument = other
    · subst other
      have given : [BindingCall.toArgument argument buffer kind].filterMap (·.given? argument) =
          [(buffer, kind)] := by simp [BindingCall.given?]
      rw [given, lastGiven?_concat, Pipeline.filter_upsert (argument.owns_rebound buffer)
        (argument.owns_binding buffer kind), bound.given argument proper]
      cases lastGiven? (calls.filterMap (·.given? argument)) with
      | none => rfl
      | some last => cases argument <;> rfl
    · have unnamed : [BindingCall.toArgument argument buffer kind].filterMap (·.given? other) =
          [] := by simp [BindingCall.given?, same]
      rw [unnamed, List.append_nil, Pipeline.filter_upsert_of_apart (other.owns_rebound buffer)
        (fun item member owns => proper.apart (bound.single item member) owns second same)
        (proper.apart (argument.single_binding buffer kind) (argument.owns_binding buffer kind)
          second same)]
      exact bound.given other second

end BoundBy

private theorem boundBy_bindAll {pipeline : Pipeline} (empty : pipeline.buffers = [])
    {calls : List BindingCall} (proper : ∀ call ∈ calls, call.Proper) :
    BoundBy calls (pipeline.bindAll calls).buffers := by
  induction calls using List.reverseRecOn with
  | nil => exact empty ▸ .nil
  | append_singleton calls call ih =>
    obtain ⟨earlier, last⟩ := List.forall_mem_append.mp proper
    have bound := ih earlier
    rw [Pipeline.bindAll, List.foldl_append]
    cases call with
    | atSlot buffer kind slot => exact bound.atSlot buffer kind slot
    | toArgument argument buffer kind =>
      have own : argument.Proper := last _ (List.mem_singleton_self _)
      exact BindingCall.buffers_toArgument argument buffer kind _ ▸
        bound.toArgument own buffer kind

theorem KernelArgument.kind_binding (argument : KernelArgument) (buffer : Id Buffer)
    (kind : BufferKind) : (argument.binding buffer kind).kind = kind := by
  cases argument <;> rfl

theorem BindingCall.Proper.of_given? {call : BindingCall} (proper : call.Proper)
    {argument : KernelArgument} {given : Id Buffer × BufferKind}
    (found : call.given? argument = some given) : argument.Proper := by
  cases call with
  | atSlot buffer kind slot => cases found
  | toArgument other buffer kind =>
    rw [BindingCall.given?] at found
    split at found
    · rename_i same
      exact same ▸ proper
    · cases found

/-- Buffers bound at slots stay as they were bound, in this order. An argument has exactly one
binding, with the buffer of the last call for it and the kind of the first one; so it is the binding
that the last call says exactly if these two calls agree on the kind. -/
theorem bindAll_last_iff (name : String) (kind : PipelineKind) {calls : List BindingCall}
    (proper : ∀ call ∈ calls, call.Proper) :
    let bindings := (Pipeline.bindAll { name, kind } calls).buffers
    bindings.filter (·.isFree) = calls.filterMap (·.placed?) ∧
      ∀ (argument : KernelArgument) (first last : Id Buffer × BufferKind),
        (calls.filterMap (·.given? argument)).head? = some first →
        (calls.filterMap (·.given? argument)).getLast? = some last →
          bindings.filter argument.owns = [argument.binding last.1 first.2] ∧
            (bindings.filter argument.owns = [argument.binding last.1 last.2] ↔
              first.2 = last.2) := by
  intro bindings
  have bound : BoundBy calls bindings := boundBy_bindAll rfl proper
  refine ⟨bound.placed, fun argument first last begun ended => ?_⟩
  have own : argument.Proper := by
    obtain ⟨call, member, found⟩ := List.mem_filterMap.mp (List.mem_of_head? begun)
    exact (proper call member).of_given? found
  have alone : bindings.filter argument.owns = [argument.binding last.1 first.2] := by
    rw [bound.given argument own, lastGiven?, begun, ended]
    rfl
  refine ⟨alone, ?_⟩
  rw [alone]
  constructor
  · intro same
    have kinds := congrArg BufferBinding.kind (List.singleton_inj.mp same)
    rwa [argument.kind_binding, argument.kind_binding] at kinds
  · intro same
    rw [same]

/-- Two storage buffers for one name, a uniform buffer for a number, and a buffer at a slot between
them. -/
theorem bindAll_last_iff_storage :
    let calls : List BindingCall :=
      [.toArgument (.named "out") ⟨0⟩ .storage, .atSlot ⟨3⟩ .storage ⟨1, 2⟩,
        .toArgument (.numbered 3) ⟨2⟩ .uniform, .toArgument (.named "out") ⟨1⟩ .storage]
    let bindings := (Pipeline.bindAll { name := "work", kind := .compute } calls).buffers
    (∀ call ∈ calls, call.Proper) ∧
      bindings.filter (·.isFree) = [.placed ⟨3⟩ .storage ⟨1, 2⟩] ∧
      bindings.filter (KernelArgument.named "out").owns =
        [(KernelArgument.named "out").binding ⟨1⟩ .storage] := by
  intro calls bindings
  have proper : ∀ call ∈ calls, call.Proper := by
    simp [calls, BindingCall.Proper, KernelArgument.Proper, wordMax, wordLimit]
  obtain ⟨placed, given⟩ := bindAll_last_iff "work" .compute proper
  obtain ⟨-, last⟩ := given (.named "out") (⟨0⟩, .storage) (⟨1⟩, .storage) rfl rfl
  exact ⟨proper, placed, last.mpr rfl⟩

/-- A name that was bound to a uniform buffer and is then bound to a storage buffer has the second
buffer as a uniform one. -/
theorem bindAll_last_kind :
    let calls : List BindingCall :=
      [.toArgument (.named "out") ⟨0⟩ .uniform, .toArgument (.named "out") ⟨1⟩ .storage]
    let bindings := (Pipeline.bindAll { name := "work", kind := .compute } calls).buffers
    bindings = [(KernelArgument.named "out").binding ⟨1⟩ .uniform] ∧
      bindings.filter (KernelArgument.named "out").owns ≠
        [(KernelArgument.named "out").binding ⟨1⟩ .storage] := by
  intro calls bindings
  exact ⟨rfl, by decide +kernel⟩

end GpuScript
