import GpuScript.Store

namespace GpuScript

namespace Store

variable {Item : Type}

theorem get?_modify (store : Store Item) (id other : Id Item) (change : Item → Item) :
    (store.modify id change).get? other =
      if id = other then (store.get? other).map change else store.get? other := by
  simp only [get?, modify, Array.getElem?_modify]
  by_cases same : id = other
  · subst other
    simp
  · have apart : id.index ≠ other.index := fun equal => same (Id.ext equal)
    simp [same, apart]

theorem get?_push (store : Store Item) (item : Item) (id : Id Item) :
    (store.push item).get? id = if id = store.nextId then some item else store.get? id := by
  have index : id = store.nextId ↔ id.index = store.items.size :=
    ⟨fun same => same ▸ rfl, fun same => Id.ext same⟩
  simp only [get?, push, Array.getElem?_push, index]

theorem lt_size_of_get? {store : Store Item} {id : Id Item} {item : Item}
    (found : store.get? id = some item) : id.index < store.size := by
  obtain ⟨bound, -⟩ := Array.getElem?_eq_some_iff.mp found
  exact bound

theorem exists_get?_of_lt {store : Store Item} {id : Id Item} (bound : id.index < store.size) :
    ∃ item, store.get? id = some item :=
  ⟨_, Array.getElem?_eq_getElem bound⟩

theorem get?_set_of_ne (store : Store Item) {id other : Id Item} (apart : id ≠ other)
    (item : Item) : (store.set id item).get? other = store.get? other := by
  rw [set, get?_modify, if_neg apart]

theorem get?_set_self {store : Store Item} {id : Id Item} {before : Item}
    (found : store.get? id = some before) (item : Item) :
    (store.set id item).get? id = some item := by
  rw [set, get?_modify, if_pos rfl, found]
  rfl

theorem get?_nextId_eq_none (store : Store Item) : store.get? store.nextId = none :=
  Array.getElem?_eq_none (Nat.le_refl _)

theorem ext_get? {left right : Store Item} (same : ∀ id, left.get? id = right.get? id) :
    left = right := by
  cases left
  cases right
  congr 1
  apply Array.ext_getElem?
  intro index
  exact same ⟨index⟩

theorem set_push_nextId (store : Store Item) (item other : Item) :
    (store.push item).set store.nextId other = store.push other := by
  refine ext_get? fun id => ?_
  by_cases last : id = store.nextId
  · rw [last, get?_set_self (get?_nextId store item), get?_nextId]
  · rw [get?_set_of_ne _ (Ne.symm last), get?_push, get?_push, if_neg last, if_neg last]

theorem modify_modify (store : Store Item) (id : Id Item) (first next : Item → Item) :
    (store.modify id first).modify id next = store.modify id (next ∘ first) := by
  apply ext_get?
  intro other
  simp only [get?_modify]
  split <;> simp

theorem set_eq_modify {store : Store Item} {id : Id Item} {item : Item}
    (found : store.get? id = some item) (change : Item → Item) :
    store.set id (change item) = store.modify id change := by
  apply ext_get?
  intro other
  simp only [set, get?_modify]
  by_cases same : id = other
  · subst other
    simp [found]
  · simp [same]

section Numbers

variable {Result : Type} {store : Store Item}

theorem mem_idsFrom {id : Id Item} : id ∈ store.idsFrom 0 ↔ id.index < store.size := by
  rw [idsFrom, List.mem_map]
  constructor
  · rintro ⟨index, member, rfl⟩
    have bound := (List.mem_range'_1.mp member).2
    rwa [Nat.sub_zero, Nat.zero_add] at bound
  · intro bound
    exact ⟨id.index, List.mem_range'_1.mpr ⟨Nat.zero_le _, by omega⟩, rfl⟩

theorem mem_idsFrom_zero {id : Id Item} {item : Item} (found : store.get? id = some item) :
    id ∈ store.idsFrom 0 :=
  mem_idsFrom.mpr (lt_size_of_get? found)

theorem nodup_idsFrom (store : Store Item) (start : Nat) : (store.idsFrom start).Nodup :=
  List.Pairwise.map Id.mk (fun _ _ apart same => apart (congrArg Id.index same)) List.nodup_range'

/-- A list by numbers is the list of the items where both agree item by item. -/
theorem map_idsFrom {byId : Id Item → Result} {byItem : Item × Nat → Result}
    (same : ∀ id item, store.get? id = some item → byId id = byItem (item, id.index)) :
    (store.idsFrom 0).map byId = store.toList.zipIdx.map byItem := by
  refine List.ext_getElem ?_ fun index left right => ?_
  · simp [idsFrom, toList, size]
  · have bound : index < store.items.size := by simpa [toList] using right
    have found : store.get? ⟨index⟩ = some store.items[index] := Array.getElem?_eq_getElem bound
    simpa [idsFrom, toList] using same ⟨index⟩ _ found

theorem filterMap_idsFrom (store : Store Item) (pick : Item → Option Result) :
    (store.idsFrom 0).filterMap (fun id => (store.get? id).bind pick) =
      store.toList.filterMap pick := by
  have items : (store.idsFrom 0).map store.get? = store.toList.map some :=
    calc (store.idsFrom 0).map store.get?
      _ = store.toList.zipIdx.map (fun entry => some entry.1) := map_idsFrom fun _ _ found => found
      _ = (store.toList.zipIdx.map Prod.fst).map some := List.map_map.symm
      _ = store.toList.map some := by rw [List.zipIdx_map_fst]
  have steps : (fun id => (store.get? id).bind pick) = (·.bind pick) ∘ store.get? := rfl
  rw [steps, ← List.filterMap_map, items, List.filterMap_map]
  rfl

end Numbers

end Store

end GpuScript
