import GpuScript.Proofs.Edit
import GpuScript.Proofs.Store
import GpuScript.Script.Catalog

/-! The index of a catalog. It is complete when a name leads exactly to the first item that has it.
Adding an item and naming new items keep it so; new items that are left without a name break it, and
nothing that comes later mends it. -/
namespace GpuScript

variable {Item : Type}

namespace Store

def nameAt? (nameOf : Item → String) (store : Store Item) (id : Id Item) : Option String :=
  (store.get? id).map nameOf

variable {nameOf : Item → String} {store : Store Item} {id : Id Item} {name : String}

theorem nameAt?_eq_some_iff :
    store.nameAt? nameOf id = some name ↔ ∃ item, store.get? id = some item ∧ nameOf item = name :=
  Option.map_eq_some_iff

theorem lt_size_of_nameAt? (named : store.nameAt? nameOf id = some name) :
    id.index < store.size := by
  obtain ⟨item, found, -⟩ := nameAt?_eq_some_iff.mp named
  exact lt_size_of_get? found

theorem nameAt?_push (item : Item) :
    (store.push item).nameAt? nameOf id =
      if id = store.nextId then some (nameOf item) else store.nameAt? nameOf id := by
  rw [nameAt?, get?_push, apply_ite (Option.map nameOf)]
  rfl

private theorem nameAt?_modify_of_same {change : Item → Item}
    (same : ∀ item, nameOf (change item) = nameOf item) (other : Id Item) :
    (store.modify id change).nameAt? nameOf other = store.nameAt? nameOf other := by
  rw [nameAt?, nameAt?, get?_modify]
  by_cases changed : id = other
  · rw [if_pos changed, Option.map_map, funext (f := nameOf ∘ change) (g := nameOf) same]
  · rw [if_neg changed]

theorem nameAt?_set_of_same {before after : Item} (found : store.get? id = some before)
    (same : nameOf after = nameOf before) (other : Id Item) :
    (store.set id after).nameAt? nameOf other = store.nameAt? nameOf other := by
  by_cases changed : id = other
  · subst other
    rw [nameAt?, nameAt?, get?_set_self found, found, Option.map_some, Option.map_some, same]
  · rw [nameAt?, nameAt?, get?_set_of_ne store changed]

/-- One store has become another: there may be more items, and those that were there have kept their
names. -/
def Extends (nameOf : Item → String) (before after : Store Item) : Prop :=
  ∀ id name, before.nameAt? nameOf id = some name → after.nameAt? nameOf id = some name

theorem Extends.refl (nameOf : Item → String) (store : Store Item) : Extends nameOf store store :=
  fun _ _ named => named

theorem Extends.trans {before between after : Store Item} (left : Extends nameOf before between)
    (right : Extends nameOf between after) : Extends nameOf before after :=
  fun id name named => right id name (left id name named)

theorem Extends.size_le {before after : Store Item} (extended : Extends nameOf before after) :
    before.size ≤ after.size := by
  refine Nat.le_of_not_lt fun shorter => ?_
  have bound : (⟨after.size⟩ : Id Item).index < before.size := shorter
  obtain ⟨item, found⟩ := exists_get?_of_lt bound
  have named := extended ⟨after.size⟩ _ (nameAt?_eq_some_iff.mpr ⟨item, found, rfl⟩)
  exact Nat.lt_irrefl _ (lt_size_of_nameAt? named)

theorem extends_push (nameOf : Item → String) (store : Store Item) (item : Item) :
    Extends nameOf store (store.push item) := by
  intro id name named
  have older : id ≠ store.nextId := by
    rintro rfl
    exact Nat.lt_irrefl _ (lt_size_of_nameAt? named)
  rw [nameAt?_push, if_neg older]
  exact named

theorem extends_set {before after : Item} (found : store.get? id = some before)
    (same : nameOf after = nameOf before) : Extends nameOf store (store.set id after) := by
  intro other name named
  rw [nameAt?_set_of_same found same]
  exact named

end Store

namespace Catalog

variable (nameOf : Item → String)

abbrev nameAt? (catalog : Catalog Item) (id : Id Item) : Option String :=
  catalog.store.nameAt? nameOf id

/-- A name leads exactly to the first item that has it. -/
structure Complete (catalog : Catalog Item) : Prop where
  leads : ∀ name id, catalog.id? name = some id →
    catalog.nameAt? nameOf id = some name ∧
      ∀ other, catalog.nameAt? nameOf other = some name → id.index ≤ other.index
  named : ∀ id name, catalog.nameAt? nameOf id = some name → (catalog.id? name).isSome

/-- A name leads to an item that has it. -/
def Sound (catalog : Catalog Item) : Prop :=
  ∀ name id, catalog.id? name = some id → catalog.nameAt? nameOf id = some name

/-- The names of the items from a number on are in the index. -/
def NamedFrom (start : Nat) (catalog : Catalog Item) : Prop :=
  ∀ id name, start ≤ id.index → catalog.nameAt? nameOf id = some name →
    (catalog.id? name).isSome

/-- A catalog has got more items. The index leads where it led before, and from a name that is new
in it to the first of the new items that have it. -/
structure Grows (before after : Catalog Item) : Prop where
  kept : Store.Extends nameOf before.store after.store
  known : ∀ name id, before.id? name = some id → after.id? name = some id
  fresh : ∀ name id, before.id? name = none → after.id? name = some id →
    after.nameAt? nameOf id = some name ∧ before.store.size ≤ id.index ∧
      ∀ other, before.store.size ≤ other.index → after.nameAt? nameOf other = some name →
        id.index ≤ other.index

/-- A catalog has got more items, and their names are in the index. -/
structure Declares (before after : Catalog Item) : Prop extends Grows nameOf before after where
  named : NamedFrom nameOf before.store.size after

variable {nameOf}

theorem Complete.sound {catalog : Catalog Item} (complete : Complete nameOf catalog) :
    Sound nameOf catalog :=
  fun name id leads => (complete.leads name id leads).1

section Grows

variable {before between after : Catalog Item}

theorem Grows.sound (grows : Grows nameOf before after) (sound : Sound nameOf before) :
    Sound nameOf after := by
  intro name id leads
  cases old : before.id? name with
  | none => exact (grows.fresh name id old leads).1
  | some first =>
    have same := grows.known name first old
    rw [leads] at same
    cases same
    exact grows.kept id name (sound name id old)

theorem Grows.isSome_id? (grows : Grows nameOf before after) {name : String}
    (known : (before.id? name).isSome) : (after.id? name).isSome := by
  obtain ⟨id, leads⟩ := Option.isSome_iff_exists.mp known
  exact Option.isSome_iff_exists.mpr ⟨id, grows.known name id leads⟩

theorem Grows.nameAt?_of_lt (grows : Grows nameOf before after) {id : Id Item} {name : String}
    (older : id.index < before.store.size) (named : after.nameAt? nameOf id = some name) :
    before.nameAt? nameOf id = some name := by
  obtain ⟨item, found⟩ := Store.exists_get?_of_lt older
  have old : before.nameAt? nameOf id = some (nameOf item) :=
    Store.nameAt?_eq_some_iff.mpr ⟨item, found, rfl⟩
  exact old.trans ((grows.kept id _ old).symm.trans named)

/-- The index is complete exactly when it was complete before and the names of all new items are in
it. -/
theorem Grows.complete_iff (grows : Grows nameOf before after) (sound : Sound nameOf before) :
    Complete nameOf after ↔ Complete nameOf before ∧ NamedFrom nameOf before.store.size after := by
  constructor
  · intro complete
    refine ⟨⟨fun name id leads => ⟨sound name id leads, ?_⟩, ?_⟩, ?_⟩
    · intro other named
      exact (complete.leads name id (grows.known name id leads)).2 other
        (grows.kept other name named)
    · intro id name named
      obtain ⟨first, leads⟩ := Option.isSome_iff_exists.mp
        (complete.named id name (grows.kept id name named))
      cases old : before.id? name with
      | some known => rfl
      | none =>
        -- The name cannot have become known by a new item: the old one has a lower number.
        obtain ⟨-, recent, -⟩ := grows.fresh name first old leads
        have lowest := (complete.leads name first leads).2 id (grows.kept id name named)
        have older := Store.lt_size_of_nameAt? named
        omega
    · exact fun id name _ named => complete.named id name named
  · rintro ⟨complete, named⟩
    refine ⟨fun name id leads => ⟨grows.sound sound name id leads, ?_⟩, ?_⟩
    · intro other present
      cases old : before.id? name with
      | some first =>
        have same := grows.known name first old
        rw [leads] at same
        cases same
        by_cases older : other.index < before.store.size
        · exact (complete.leads name id old).2 other (grows.nameAt?_of_lt older present)
        · have early := Store.lt_size_of_nameAt? (sound name id old)
          omega
      | none =>
        obtain ⟨-, -, first⟩ := grows.fresh name id old leads
        by_cases older : other.index < before.store.size
        · have known := complete.named other name (grows.nameAt?_of_lt older present)
          rw [old] at known
          cases known
        · exact first other (Nat.le_of_not_lt older) present
    · intro id name present
      by_cases older : id.index < before.store.size
      · exact grows.isSome_id? (complete.named id name (grows.nameAt?_of_lt older present))
      · exact named id name (Nat.le_of_not_lt older) present

theorem Declares.refl (nameOf : Item → String) (catalog : Catalog Item) :
    Declares nameOf catalog catalog where
  kept := .refl nameOf catalog.store
  known _ _ leads := leads
  fresh name id unknown leads := by
    rw [unknown] at leads
    cases leads
  named id name recent named := by
    have older := Store.lt_size_of_nameAt? named
    omega

theorem Declares.trans (left : Declares nameOf before between)
    (right : Declares nameOf between after) : Declares nameOf before after where
  kept := left.kept.trans right.kept
  known name id leads := right.known name id (left.known name id leads)
  fresh name id unknown leads := by
    cases found : between.id? name with
    | some first =>
      have same := right.known name first found
      rw [leads] at same
      cases same
      obtain ⟨named, recent, lowest⟩ := left.fresh name id unknown found
      refine ⟨right.kept id name named, recent, fun other late present => ?_⟩
      by_cases older : other.index < between.store.size
      · exact lowest other late (right.nameAt?_of_lt older present)
      · have early := Store.lt_size_of_nameAt? named
        omega
    | none =>
      obtain ⟨named, recent, lowest⟩ := right.fresh name id found leads
      -- A new item that was there in between would have had its name in the index.
      have absent (other : Id Item) (late : before.store.size ≤ other.index)
          (present : after.nameAt? nameOf other = some name) :
          between.store.size ≤ other.index := by
        refine Nat.le_of_not_lt fun older => ?_
        have known := left.named other name late (right.nameAt?_of_lt older present)
        rw [found] at known
        cases known
      refine ⟨named, Nat.le_trans left.kept.size_le recent, fun other late present => ?_⟩
      exact lowest other (absent other late present) present
  named id name late named := by
    by_cases older : id.index < between.store.size
    · exact right.isSome_id? (left.named id name late (right.nameAt?_of_lt older named))
    · exact right.named id name (Nat.le_of_not_lt older) named

end Grows

def declare (catalog : Catalog Item) (name : String) (item : Item) : Catalog Item :=
  ⟨catalog.store.push item, catalog.names ++ [(name, catalog.store.nextId)]⟩

theorem apply_add (entity name : String) (item : Item) (catalog : Catalog Item) :
    (add entity name item).apply catalog =
      if (catalog.id? name).isSome then (.error (.nameTaken entity), catalog)
      else (.ok catalog.store.nextId, catalog.declare name item) := by
  rw [add, Edit.apply_bind_of_ok (Edit.apply_get catalog)]
  split <;> rfl

theorem id?_concat (store : Store Item) (names : List (String × Id Item)) (name other : String)
    (id : Id Item) :
    id? ⟨store, names ++ [(name, id)]⟩ other =
      (names.lookup other).or (if other = name then some id else none) := by
  rw [id?, List.lookup_append]
  congr 1
  by_cases same : other = name
  · rw [List.lookup_cons, beq_iff_eq.mpr same, if_pos same]
  · rw [List.lookup_cons, beq_false_of_ne same, if_neg same]
    rfl

theorem Grows.concat {before : Catalog Item} {store : Store Item}
    {names : List (String × Id Item)} (grows : Grows nameOf before ⟨store, names⟩) {name : String}
    {id : Id Item} (recent : before.store.size ≤ id.index)
    (named : store.nameAt? nameOf id = some name)
    (first : ∀ other, before.store.size ≤ other.index → store.nameAt? nameOf other = some name →
      id.index ≤ other.index) :
    Grows nameOf before ⟨store, names ++ [(name, id)]⟩ where
  kept := grows.kept
  known other known leads := by
    have same : names.lookup other = some known := grows.known other known leads
    rw [id?_concat, same, Option.some_or]
  fresh other found unknown leads := by
    rw [id?_concat] at leads
    cases old : names.lookup other with
    | some known =>
      rw [old, Option.some_or] at leads
      exact grows.fresh other found unknown (Eq.trans old leads)
    | none =>
      rw [old, Option.none_or] at leads
      by_cases same : other = name
      · rw [if_pos same] at leads
        cases leads
        subst other
        exact ⟨named, recent, first⟩
      · rw [if_neg same] at leads
        cases leads

theorem isSome_id?_concat (store : Store Item) (names : List (String × Id Item)) (name : String)
    (id : Id Item) : (id? ⟨store, names ++ [(name, id)]⟩ name).isSome := by
  rw [id?_concat, if_pos rfl]
  cases names.lookup name <;> rfl

/-- Items have been added behind the index: their names are not in it unless they were before. -/
structure Gathers (nameOf : Item → String) (before after : Catalog Item) : Prop where
  kept : Store.Extends nameOf before.store after.store
  names : after.names = before.names

theorem Gathers.grows {before after : Catalog Item} (gathers : Gathers nameOf before after) :
    Grows nameOf before after := by
  have same (name : String) : after.id? name = before.id? name := by
    rw [id?, id?, gathers.names]
  refine ⟨gathers.kept, fun name id leads => (same name).trans leads, ?_⟩
  intro name id unknown leads
  rw [same, unknown] at leads
  cases leads

/-- The items of a catalog and its index have the names that they had. -/
structure SameNames (nameOf : Item → String) (before after : Catalog Item) : Prop where
  index : after.names = before.names
  items : ∀ id, after.nameAt? nameOf id = before.nameAt? nameOf id

theorem SameNames.declares {before after : Catalog Item} (same : SameNames nameOf before after) :
    Declares nameOf before after := by
  have gathers : Gathers nameOf before after :=
    ⟨fun id name named => (same.items id).trans named, same.index⟩
  refine ⟨gathers.grows, fun id name recent named => ?_⟩
  rw [same.items] at named
  exact absurd (Store.lt_size_of_nameAt? named) (Nat.not_lt.mpr recent)

theorem sameNames_set {catalog : Catalog Item} {id : Id Item} {before after : Item}
    (found : catalog.get? id = some before) (same : nameOf after = nameOf before) :
    SameNames nameOf catalog { catalog with store := catalog.store.set id after } :=
  ⟨rfl, Store.nameAt?_set_of_same found same⟩

theorem sameNames_modify (catalog : Catalog Item) (id : Id Item) {change : Item → Item}
    (same : ∀ item, nameOf (change item) = nameOf item) :
    SameNames nameOf catalog { catalog with store := catalog.store.modify id change } :=
  ⟨rfl, Store.nameAt?_modify_of_same same⟩

theorem Gathers.refl (nameOf : Item → String) (catalog : Catalog Item) :
    Gathers nameOf catalog catalog :=
  ⟨.refl nameOf catalog.store, rfl⟩

theorem Gathers.trans {before between after : Catalog Item} (left : Gathers nameOf before between)
    (right : Gathers nameOf between after) : Gathers nameOf before after :=
  ⟨left.kept.trans right.kept, right.names.trans left.names⟩

theorem declares_declare (catalog : Catalog Item) (item : Item) :
    Declares nameOf catalog (catalog.declare (nameOf item) item) := by
  have pushed : Gathers nameOf catalog ⟨catalog.store.push item, catalog.names⟩ :=
    ⟨Store.extends_push nameOf catalog.store item, rfl⟩
  have named : (catalog.store.push item).nameAt? nameOf catalog.store.nextId =
      some (nameOf item) := by
    rw [Store.nameAt?_push, if_pos rfl]
  refine ⟨pushed.grows.concat (Nat.le_refl _) named fun other recent _ => recent, ?_⟩
  intro id name recent present
  have bound := Store.lt_size_of_nameAt? present
  rw [declare, Store.size_push] at bound
  have last : id = catalog.store.nextId :=
    Id.ext (Nat.le_antisymm (Nat.le_of_lt_succ bound) recent)
  have same : name = nameOf item := by
    rw [last] at present
    exact Option.some.inj (present.symm.trans named)
  rw [same]
  exact isSome_id?_concat _ _ _ _

theorem declares_add (entity : String) (item : Item) (catalog : Catalog Item) :
    Declares nameOf catalog ((add entity (nameOf item) item).apply catalog).2 := by
  rw [apply_add]
  by_cases taken : (catalog.id? (nameOf item)).isSome
  · rw [if_pos taken]
    exact .refl nameOf catalog
  · rw [if_neg taken]
    exact declares_declare catalog item

variable {before : Catalog Item}

/-- The catalog has grown, and the new items below a number have their names in the index. -/
private structure NamedTo (nameOf : Item → String) (before : Catalog Item) (stop : Nat)
    (after : Catalog Item) : Prop extends Grows nameOf before after where
  named : ∀ id name, before.store.size ≤ id.index → id.index < stop →
    after.nameAt? nameOf id = some name → (after.id? name).isSome

theorem index_eq {catalog : Catalog Item} {id : Id Item} {item : Item}
    (found : catalog.get? id = some item) :
    catalog.index nameOf id =
      if (catalog.id? (nameOf item)).isSome then catalog
      else ⟨catalog.store, catalog.names ++ [(nameOf item, id)]⟩ := by
  rw [index, found]

private theorem NamedTo.index {catalog : Catalog Item} {stop : Nat}
    (named : NamedTo nameOf before stop catalog) (recent : before.store.size ≤ stop) :
    NamedTo nameOf before (stop + 1) (catalog.index nameOf ⟨stop⟩) := by
  have earlier (id : Id Item) (below : id.index < stop + 1) : id.index < stop ∨ id = ⟨stop⟩ :=
    (Nat.lt_succ_iff_lt_or_eq.mp below).imp_right Id.ext
  cases found : catalog.get? ⟨stop⟩ with
  | none =>
    rw [Catalog.index, found]
    refine ⟨named.toGrows, fun id name late below present => ?_⟩
    rcases earlier id below with old | rfl
    · exact named.named id name late old present
    · have absent : catalog.nameAt? nameOf ⟨stop⟩ = none := congrArg (Option.map nameOf) found
      cases present.symm.trans absent
  | some item =>
    have present : catalog.nameAt? nameOf ⟨stop⟩ = some (nameOf item) :=
      Store.nameAt?_eq_some_iff.mpr ⟨item, found, rfl⟩
    rw [index_eq found]
    by_cases taken : (catalog.id? (nameOf item)).isSome
    · rw [if_pos taken]
      refine ⟨named.toGrows, fun id name late below held => ?_⟩
      rcases earlier id below with old | rfl
      · exact named.named id name late old held
      · cases present.symm.trans held
        exact taken
    · rw [if_neg taken]
      refine ⟨named.toGrows.concat recent present fun other late held => ?_, ?_⟩
      · exact Nat.le_of_not_lt fun old => taken (named.named other _ late old held)
      · intro id name late below held
        rcases earlier id below with old | rfl
        · have known := named.named id name late old held
          rw [id?_concat]
          exact Option.isSome_or.trans (Bool.or_eq_true_iff.mpr (.inl known))
        · cases present.symm.trans held
          exact isSome_id?_concat _ _ _ _

private theorem namedTo_foldl {catalog : Catalog Item} {start : Nat} (count : Nat)
    (named : NamedTo nameOf before start catalog) (recent : before.store.size ≤ start) :
    NamedTo nameOf before (start + count)
      (((List.range' start count).map Id.mk).foldl (index nameOf) catalog) := by
  induction count generalizing start catalog with
  | zero => exact named
  | succ count ih =>
    rw [List.range'_succ, List.map_cons, List.foldl_cons, Nat.add_comm count, ← Nat.add_assoc]
    exact ih (named.index recent) (Nat.le_succ_of_le recent)

private theorem store_index (catalog : Catalog Item) (id : Id Item) :
    (catalog.index nameOf id).store = catalog.store := by
  cases found : catalog.get? id with
  | none => rw [index, found]
  | some item =>
    rw [index_eq found]
    split <;> rfl

theorem store_indexFrom (catalog : Catalog Item) (start : Nat) :
    (catalog.indexFrom nameOf start).store = catalog.store := by
  unfold indexFrom
  generalize catalog.store.idsFrom start = ids
  induction ids generalizing catalog with
  | nil => rfl
  | cons id rest ih => rw [List.foldl_cons, ih, store_index]

theorem indexFrom_size (catalog : Catalog Item) :
    catalog.indexFrom nameOf catalog.store.size = catalog := by
  rw [indexFrom, Store.idsFrom, Nat.sub_self]
  rfl

/-- What was added behind the index is declared by naming it. -/
theorem Gathers.declares_indexFrom {after : Catalog Item} (gathers : Gathers nameOf before after) :
    Declares nameOf before (after.indexFrom nameOf before.store.size) := by
  have begun : NamedTo nameOf before before.store.size after :=
    ⟨gathers.grows, fun id name recent older _ => absurd older (Nat.not_lt.mpr recent)⟩
  have done := namedTo_foldl (after.store.size - before.store.size) begun (Nat.le_refl _)
  rw [Nat.add_sub_cancel' gathers.kept.size_le] at done
  refine ⟨done.toGrows, fun id name recent named => done.named id name recent ?_ named⟩
  have bound := Store.lt_size_of_nameAt? named
  rwa [store_indexFrom] at bound

end Catalog

end GpuScript
