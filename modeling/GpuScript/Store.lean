/-! Stores: items are only ever added, and an item's number never changes. -/
namespace GpuScript

/-- The number of an item in a store of such items. -/
structure Id (Item : Type) where
  index : Nat

namespace Id

@[ext]
theorem ext {Item : Type} {left right : Id Item} (same : left.index = right.index) :
    left = right := by
  cases left; cases right; simp_all

instance {Item : Type} : DecidableEq (Id Item) := fun left right =>
  if same : left.index = right.index then .isTrue (ext same)
  else .isFalse fun equal => same (congrArg index equal)

end Id

/-- Items numbered in the order in which they came. -/
structure Store (Item : Type) where
  items : Array Item := #[]

namespace Store

variable {Item : Type}

def size (store : Store Item) : Nat := store.items.size

def nextId (store : Store Item) : Id Item := ⟨store.size⟩

def push (store : Store Item) (item : Item) : Store Item := ⟨store.items.push item⟩

def get? (store : Store Item) (id : Id Item) : Option Item := store.items[id.index]?

/-- Changes the item with a number, if there is one. -/
def modify (store : Store Item) (id : Id Item) (change : Item → Item) : Store Item :=
  ⟨store.items.modify id.index change⟩

def set (store : Store Item) (id : Id Item) (item : Item) : Store Item :=
  store.modify id fun _ => item

def toList (store : Store Item) : List Item := store.items.toList

/-- The numbers from one size up to the present one. -/
def idsFrom (store : Store Item) (start : Nat) : List (Id Item) :=
  (List.range' start (store.size - start)).map Id.mk

theorem get?_nextId (store : Store Item) (item : Item) :
    (store.push item).get? store.nextId = some item := by
  simp [get?, push, nextId, size]

theorem get?_push_of_lt (store : Store Item) (item : Item) (id : Id Item)
    (older : id.index < store.size) : (store.push item).get? id = store.get? id := by
  simp only [get?, push]
  exact Array.getElem?_push_lt older ▸ (Array.getElem?_eq_getElem older).symm

theorem size_push (store : Store Item) (item : Item) : (store.push item).size = store.size + 1 := by
  simp [size, push]

theorem size_modify (store : Store Item) (id : Id Item) (change : Item → Item) :
    (store.modify id change).size = store.size := by
  simp [size, modify]

end Store

end GpuScript
