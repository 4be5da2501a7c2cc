import GpuScript.Fault
import GpuScript.Store

/-! Catalogs: stores with an index from names to items. A name leads to the item it was first given
to; the items themselves may be renamed without the index being told. -/
namespace GpuScript

structure Catalog (Item : Type) where
  store : Store Item := {}
  names : List (String × Id Item) := []

namespace Catalog

variable {Item : Type}

def id? (catalog : Catalog Item) (name : String) : Option (Id Item) := catalog.names.lookup name

def get? (catalog : Catalog Item) (id : Id Item) : Option Item := catalog.store.get? id

def find? (catalog : Catalog Item) (name : String) : Option Item :=
  (catalog.id? name).bind catalog.get?

/-- Adds an item under a name that is free; `entity` says what the item is in a fault. -/
def add (entity name : String) (item : Item) : Edit (Catalog Item) (Id Item) := do
  let catalog ← get
  if (catalog.id? name).isSome then throw (.nameTaken entity)
  let id := catalog.store.nextId
  set (⟨catalog.store.push item, catalog.names ++ [(name, id)]⟩ : Catalog Item)
  return id

/-- Gives an item its name in the index unless the name is taken. -/
def index (nameOf : Item → String) (catalog : Catalog Item) (id : Id Item) : Catalog Item :=
  match catalog.get? id with
  | none => catalog
  | some item =>
    if (catalog.id? (nameOf item)).isSome then catalog
    else { catalog with names := catalog.names ++ [(nameOf item, id)] }

/-- Gives the items from a number on their names in the index. -/
def indexFrom (nameOf : Item → String) (start : Nat) (catalog : Catalog Item) : Catalog Item :=
  (catalog.store.idsFrom start).foldl (index nameOf) catalog

end Catalog

end GpuScript
