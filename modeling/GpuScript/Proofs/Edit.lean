import GpuScript.Pipeline.Framebuffer

/-! Running edits: what each way to put edits together does to the outcome and to the state. -/
namespace GpuScript

namespace Edit

variable {State Result Next : Type}

theorem apply_pure (result : Result) (state : State) :
    (pure result : Edit State Result).apply state = (.ok result, state) := rfl

theorem apply_get (state : State) : (get : Edit State State).apply state = (.ok state, state) := rfl

theorem apply_modify (change : State → State) (state : State) :
    (modify change : Edit State PUnit).apply state = (.ok ⟨⟩, change state) := rfl

theorem apply_ofExcept (outcome : Except Fault Result) (state : State) :
    (ofExcept outcome : Edit State Result).apply state = (outcome, state) := by
  cases outcome <;> rfl

theorem apply_bind (first : Edit State Result) (next : Result → Edit State Next) (state : State) :
    (first >>= next).apply state =
      match first.apply state with
      | (.ok result, after) => (next result).apply after
      | (.error fault, after) => (.error fault, after) := by
  change ExceptT.bindCont next (first.apply state).1 (first.apply state).2 = _
  rcases first.apply state with ⟨outcome, after⟩
  cases outcome <;> rfl

theorem apply_bind_of_ok {first : Edit State Result} {state after : State} {result : Result}
    (done : first.apply state = (.ok result, after)) (next : Result → Edit State Next) :
    (first >>= next).apply state = (next result).apply after := by
  rw [apply_bind, done]

theorem apply_bind_of_error {first : Edit State Result} {state after : State} {fault : Fault}
    (failed : first.apply state = (.error fault, after)) (next : Result → Edit State Next) :
    (first >>= next).apply state = (.error fault, after) := by
  rw [apply_bind, failed]

theorem bind_ok {first : Edit State Result} {next : Result → Edit State Next}
    {state final : State} {result : Next} :
    (first >>= next).apply state = (.ok result, final) ↔
      ∃ middle between, first.apply state = (.ok middle, between) ∧
        (next middle).apply between = (.ok result, final) := by
  rw [apply_bind]
  constructor
  · intro done
    cases found : first.apply state with
    | mk outcome between =>
      rw [found] at done
      cases outcome with
      | ok middle => exact ⟨middle, between, rfl, done⟩
      | error fault => cases done
  · rintro ⟨middle, between, found, done⟩
    rw [found]
    exact done

theorem forM_cons_ok {Item : Type} {operation : Item → Edit State PUnit} {item : Item}
    {rest : List Item} {state final : State} :
    ((item :: rest).forM operation).apply state = (.ok ⟨⟩, final) ↔
      ∃ between, (operation item).apply state = (.ok ⟨⟩, between) ∧
        (rest.forM operation).apply between = (.ok ⟨⟩, final) := by
  change (operation item >>= fun _ => rest.forM operation).apply state = (.ok ⟨⟩, final) ↔ _
  rw [bind_ok]
  exact ⟨fun ⟨_, between, first, later⟩ => ⟨between, first, later⟩,
    fun ⟨between, first, later⟩ => ⟨⟨⟩, between, first, later⟩⟩

/-- After edits for the first items that are known to succeed the next items decide. -/
theorem apply_forM_append_of_ok {Item : Type} {operation : Item → Edit State PUnit}
    {first next : List Item} {state between : State}
    (done : (first.forM operation).apply state = (.ok ⟨⟩, between)) :
    ((first ++ next).forM operation).apply state = (next.forM operation).apply between := by
  have split : (first ++ next).forM operation =
      first.forM operation >>= fun _ => next.forM operation := List.forM_append
  rw [split, apply_bind_of_ok done]

/-- Peels a computation that leaves the state alone. -/
theorem bind_ofExcept_ok {outcome : Except Fault Result} {next : Result → Edit State Next}
    {state after : State} {result : Next}
    (done : (ofExcept outcome >>= next).apply state = (.ok result, after)) :
    ∃ value, outcome = .ok value ∧ (next value).apply state = (.ok result, after) := by
  obtain ⟨value, between, ran, rest⟩ := bind_ok.mp done
  rw [apply_ofExcept] at ran
  obtain ⟨same, rfl⟩ := Prod.mk.inj ran
  exact ⟨value, same, rest⟩

/-- Where a computation that leaves the state alone comes first, it fails or the rest does. -/
theorem bind_ofExcept_error {outcome : Except Fault Result} {next : Result → Edit State Next}
    {state after : State} {fault : Fault}
    (failed : (ofExcept outcome >>= next).apply state = (.error fault, after)) :
    (outcome = .error fault ∧ after = state) ∨
      ∃ value, outcome = .ok value ∧ (next value).apply state = (.error fault, after) := by
  rw [apply_bind, apply_ofExcept] at failed
  cases outcome with
  | error other =>
    cases failed
    exact .inl ⟨rfl, rfl⟩
  | ok value => exact .inr ⟨value, rfl, failed⟩

/-- A condition makes an edit fail before it changes anything, or the rest fails. -/
theorem guard_error {condition : Prop} [Decidable condition] {cause fault : Fault}
    {behind : Result → Edit State Next} {next : Edit State Next} {state after : State}
    (failed : (if condition then throw cause >>= behind else next).apply state =
      (.error fault, after)) :
    after = state ∨ next.apply state = (.error fault, after) := by
  split at failed
  · rw [apply_bind] at failed
    exact .inl (Prod.mk.inj failed).2.symm
  · exact .inr failed

/-- Past a condition that makes an edit fail the rest decides. -/
theorem guard_ok_iff {condition : Prop} [Decidable condition] {cause : Fault}
    {behind : Result → Edit State Next} {next : Edit State Next} {state after : State}
    {result : Next} :
    (if condition then throw cause >>= behind else next).apply state = (.ok result, after) ↔
      ¬condition ∧ next.apply state = (.ok result, after) := by
  split
  · rename_i refused
    rw [apply_bind]
    exact iff_of_false (fun done => nomatch done) fun done => done.1 refused
  · rename_i passed
    exact (and_iff_right passed).symm

theorem apply_tryCatch (operation : Edit State Result) (handle : Fault → Edit State Result)
    (state : State) :
    (tryCatch operation handle).apply state =
      match operation.apply state with
      | (.ok result, after) => (.ok result, after)
      | (.error fault, after) => (handle fault).apply after := by
  simp only [apply, tryCatch, tryCatchThe, MonadExceptOf.tryCatch, ExceptT.tryCatch, ExceptT.mk,
    bind, StateT.bind, ExceptT.run, StateT.run]
  rcases operation state with ⟨outcome, after⟩
  cases outcome <;> rfl

theorem apply_onPart {Whole Part : Type} (view : Whole → Part) (put : Whole → Part → Whole)
    (operation : Edit Part Result) (whole : Whole) :
    (operation.onPart view put).apply whole =
      ((operation.apply (view whole)).1, put whole (operation.apply (view whole)).2) := rfl

theorem onPart_ok {Whole Part : Type} {view : Whole → Part} {put : Whole → Part → Whole}
    {operation : Edit Part Result} {whole after : Whole} {result : Result} :
    (operation.onPart view put).apply whole = (.ok result, after) ↔
      ∃ part, operation.apply (view whole) = (.ok result, part) ∧ after = put whole part := by
  rw [apply_onPart, Prod.mk.injEq]
  constructor
  · rintro ⟨done, rfl⟩
    exact ⟨_, Prod.ext done rfl, rfl⟩
  · rintro ⟨part, done, rfl⟩
    rw [done]
    exact ⟨rfl, rfl⟩

def Succeeds (operation : Edit State Result) (state : State) : Prop :=
  ∃ result final, operation.apply state = (.ok result, final)

theorem succeeds_iff {operation : Edit State Unit} {state : State} :
    operation.Succeeds state ↔ (operation.apply state).1 = .ok ⟨⟩ := by
  constructor
  · rintro ⟨result, final, done⟩
    rw [done]
  · intro done
    exact ⟨⟨⟩, _, Prod.ext done rfl⟩

theorem succeeds_pure (result : Result) (state : State) :
    (pure result : Edit State Result).Succeeds state := ⟨result, state, rfl⟩

theorem succeeds_modify (change : State → State) (state : State) :
    (modify change : Edit State PUnit).Succeeds state := ⟨⟨⟩, change state, rfl⟩

theorem succeeds_ite {condition : Prop} [Decidable condition] {left right : Edit State Result}
    {state : State} (first : left.Succeeds state) (second : right.Succeeds state) :
    (if condition then left else right).Succeeds state := by
  split
  · exact first
  · exact second

theorem succeeds_bind_of_ok {first : Edit State Result} {state after : State} {result : Result}
    (done : first.apply state = (.ok result, after)) {next : Result → Edit State Next} :
    (first >>= next).Succeeds state ↔ (next result).Succeeds after := by
  rw [Succeeds, Succeeds, apply_bind_of_ok done]

/-- Where the next edit always succeeds after the first one, the first one decides. -/
theorem succeeds_bind_iff {first : Edit State Result} {state : State}
    {next : Result → Edit State Next}
    (always : ∀ result after, first.apply state = (.ok result, after) →
      (next result).Succeeds after) :
    (first >>= next).Succeeds state ↔ first.Succeeds state := by
  constructor
  · rintro ⟨result, final, done⟩
    obtain ⟨middle, between, ran, -⟩ := bind_ok.mp done
    exact ⟨middle, between, ran⟩
  · rintro ⟨middle, between, ran⟩
    exact (succeeds_bind_of_ok ran).mpr (always middle between ran)

/-- A property of the state holds after the edit where it held before, also after a failure. -/
def Maintains (holds : State → Prop) (operation : Edit State Result) : Prop :=
  ∀ state, holds state → holds (operation.apply state).2

section Maintains

variable {holds : State → Prop}

theorem maintains_pure (result : Result) : Maintains holds (pure result : Edit State Result) :=
  fun _ held => held

theorem maintains_throw (fault : Fault) : Maintains holds (throw fault : Edit State Result) :=
  fun _ held => held

theorem maintains_set {state : State} (held : holds state) :
    Maintains holds (set state : Edit State PUnit) :=
  fun _ _ => held

theorem maintains_modify {change : State → State}
    (maintained : ∀ state, holds state → holds (change state)) :
    Maintains holds (modify change : Edit State PUnit) :=
  maintained

theorem maintains_ofExcept (outcome : Except Fault Result) :
    Maintains holds (ofExcept outcome : Edit State Result) := by
  intro state held
  rw [apply_ofExcept]
  exact held

theorem maintains_bind {first : Edit State Result} {next : Result → Edit State Next}
    (left : Maintains holds first) (right : ∀ result, Maintains holds (next result)) :
    Maintains holds (first >>= next) := by
  intro state held
  have between := left state held
  rw [apply_bind]
  cases ran : first.apply state with
  | mk outcome after =>
    rw [ran] at between
    cases outcome with
    | ok result => exact right result after between
    | error fault => exact between

theorem maintains_bind_of_throw (fault : Fault) (next : Result → Edit State Next) :
    Maintains holds (throw fault >>= next) := by
  intro state held
  rw [apply_bind]
  exact held

/-- The property holds of the state that an edit starts by looking at. -/
theorem maintains_get_bind {next : State → Edit State Next}
    (maintained : ∀ seen, holds seen → Maintains holds (next seen)) :
    Maintains holds (get >>= next) := by
  intro state held
  rw [apply_bind_of_ok (apply_get state)]
  exact maintained state held state held

theorem maintains_ite {condition : Prop} [Decidable condition] {left right : Edit State Result}
    (first : Maintains holds left) (second : Maintains holds right) :
    Maintains holds (if condition then left else right) := by
  split
  · exact first
  · exact second

theorem maintains_forM {Item : Type} {operation : Item → Edit State Unit} {items : List Item}
    (each : ∀ item ∈ items, Maintains holds (operation item)) :
    Maintains holds (items.forM operation) := by
  induction items with
  | nil => exact maintains_pure _
  | cons item rest ih =>
    obtain ⟨first, later⟩ := List.forall_mem_cons.mp each
    exact maintains_bind first fun _ => ih later

/-- A condition that makes the edit fail need not be looked at. -/
theorem maintains_guard {condition : Prop} [Decidable condition] {fault : Fault}
    {after : Result → Edit State Next} {next : Edit State Next}
    (maintained : Maintains holds next) :
    Maintains holds (if condition then throw fault >>= after else next) := by
  split
  · exact maintains_bind_of_throw fault after
  · exact maintained

theorem maintains_onPart {Whole Part : Type} {view : Whole → Part} {put : Whole → Part → Whole}
    {holds : Whole → Prop} {operation : Edit Part Result}
    (maintained : ∀ whole, holds whole →
      holds (put whole (operation.apply (view whole)).2)) :
    Maintains holds (operation.onPart view put) :=
  maintained

end Maintains

/-- An edit that starts where a property holds: its result and its state have another one, or, when
it fails, its state has a third one. -/
def Leads (before failed : State → Prop) (done : Result → State → Prop)
    (operation : Edit State Result) : Prop :=
  ∀ state, before state →
    match operation.apply state with
    | (.ok result, after) => done result after
    | (.error _, after) => failed after

section Leads

variable {before failed : State → Prop} {done : Result → State → Prop}

theorem leads_pure {result : Result} (reached : ∀ state, before state → done result state) :
    Leads before failed done (pure result) := reached

theorem leads_throw {fault : Fault} (stopped : ∀ state, before state → failed state) :
    Leads before failed done (throw fault : Edit State Result) := stopped

theorem leads_bind {middle : Result → State → Prop} {first : Edit State Result}
    {next : Result → Edit State Next} {done : Next → State → Prop}
    (left : Leads before failed middle first)
    (right : ∀ result, Leads (middle result) failed done (next result)) :
    Leads before failed done (first >>= next) := by
  intro state held
  have between := left state held
  rw [apply_bind]
  cases ran : first.apply state with
  | mk outcome after =>
    rw [ran] at between
    cases outcome with
    | ok result => exact right result after between
    | error fault => exact between

/-- The state that an edit starts by looking at is the one it starts in. -/
theorem leads_get_bind {next : State → Edit State Next} {done : Next → State → Prop}
    (rest : ∀ seen, before seen → Leads (· = seen) failed done (next seen)) :
    Leads before failed done (get >>= next) := by
  intro state held
  rw [apply_bind_of_ok (apply_get state)]
  exact rest state held state rfl

/-- Where an edit goes on, the condition that would have made it fail does not hold. -/
theorem leads_guard {condition : Prop} [Decidable condition] {fault : Fault}
    {after : Result → Edit State Next} {next : Edit State Next} {done : Next → State → Prop}
    (stopped : ∀ state, before state → failed state)
    (rest : ¬condition → Leads before failed done next) :
    Leads before failed done (if condition then throw fault >>= after else next) := by
  split
  · intro state held
    rw [apply_bind]
    exact stopped state held
  · rename_i free
    exact rest free

theorem leads_bind_of_throw {fault : Fault} {next : Result → Edit State Next}
    {done : Next → State → Prop} (stopped : ∀ state, before state → failed state) :
    Leads before failed done (throw fault >>= next) := by
  intro state held
  rw [apply_bind]
  exact stopped state held

theorem leads_ofExcept {outcome : Except Fault Result}
    (reached : ∀ result state, before state → done result state)
    (stopped : ∀ state, before state → failed state) :
    Leads before failed done (ofExcept outcome) := by
  intro state held
  rw [apply_ofExcept]
  cases outcome with
  | ok result => exact reached result state held
  | error fault => exact stopped state held

theorem Leads.weaken {less : Result → State → Prop} {operation : Edit State Result}
    (leads : Leads before failed done operation)
    (implied : ∀ result state, done result state → less result state) :
    Leads before failed less operation := by
  intro state held
  have reached := leads state held
  cases ran : operation.apply state with
  | mk outcome after =>
    rw [ran] at reached
    cases outcome with
    | ok result => exact implied result after reached
    | error fault => exact reached

/-- Where it makes no difference whether an edit fails, only its last state counts. -/
theorem leads_iff {holds : State → Prop} {operation : Edit State Result} :
    Leads before holds (fun _ => holds) operation ↔
      ∀ state, before state → holds (operation.apply state).2 := by
  refine forall₂_congr fun state _ => ?_
  cases operation.apply state with
  | mk outcome after => cases outcome <;> rfl

theorem Leads.maintains {holds : State → Prop} {operation : Edit State Result}
    (leads : Leads holds holds (fun _ => holds) operation) : Maintains holds operation :=
  leads_iff.mp leads

theorem Maintains.leads {holds : State → Prop} {operation : Edit State Result}
    (maintained : Maintains holds operation) : Leads holds holds (fun _ => holds) operation :=
  leads_iff.mpr maintained

end Leads

/-- An edit that leaves the state alone where it fails and keeps a property where it succeeds. -/
def Secures (holds : State → Prop) (operation : Edit State Result) : Prop :=
  ∀ start, Leads (· = start) (· = start) (fun _ after => holds start → holds after) operation

section Secures

variable {holds : State → Prop}

theorem Secures.unchanged {operation : Edit State Result} (secures : Secures holds operation)
    {start after : State} {fault : Fault} (failed : operation.apply start = (.error fault, after)) :
    after = start := by
  have traced := secures start start rfl
  rw [failed] at traced
  exact traced

theorem Secures.maintains {operation : Edit State Result} (secures : Secures holds operation) :
    Maintains holds operation := by
  intro start held
  have traced := secures start start rfl
  cases ran : operation.apply start with
  | mk outcome after =>
    rw [ran] at traced
    cases outcome with
    | ok result => exact traced held
    | error fault => exact traced ▸ held

/-- An edit that looks at the state, may fail, and then changes it. -/
theorem secures_checked {condition : State → Prop} [DecidablePred condition] {fault : Fault}
    {change : State → State}
    (kept : ∀ state, ¬condition state → holds state → holds (change state)) :
    Secures holds
      (do if condition (← get) then throw fault
          modify change) := by
  intro start
  refine leads_get_bind fun seen same => leads_guard ?_ fun free => ?_
  · rintro state rfl
    exact same
  · rintro state rfl
    exact same ▸ kept state free

theorem Secures.onPart {Whole Part : Type} {view : Whole → Part} {put : Whole → Part → Whole}
    {holds : Part → Prop} {operation : Edit Part Result} (secures : Secures holds operation)
    (kept : ∀ whole, put whole (view whole) = whole)
    (changed : ∀ whole part, view (put whole part) = part) :
    Secures (fun whole => holds (view whole)) (operation.onPart view put) := by
  rintro start whole same
  subst whole
  have traced := secures (view start) (view start) rfl
  rw [apply_onPart]
  cases ran : operation.apply (view start) with
  | mk outcome part =>
    rw [ran] at traced
    cases outcome with
    | ok result =>
      intro held
      exact (changed start part).symm ▸ traced held
    | error fault =>
      have same : part = view start := traced
      exact same ▸ kept start

end Secures

end Edit

end GpuScript
