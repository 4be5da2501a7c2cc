import GpuScript.Number.Decimal

namespace GpuScript

/-- A piece of described data. Singles and doubles are kept apart by their width. -/
inductive Document where
  | null
  | truth (value : Bool)
  | count (value : Nat)
  | single (value : Single)
  | double (value : Double)
  | text (value : String)
  | list (items : List Document)
  | record (fields : List (String × Document))
  deriving BEq

namespace Document

/-- The description of what is there, or null. -/
def optional {Item : Type} (describe : Item → Document) : Option Item → Document
  | some item => describe item
  | none => .null

def listOf {Item : Type} (describe : Item → Document) (items : List Item) : Document :=
  .list (items.map describe)

/-- A record in which a first field tells kinds of data apart. -/
def tagged (field tag : String) (fields : List (String × Document)) : Document :=
  .record ((field, .text tag) :: fields)

def fields : Document → List (String × Document)
  | .record fields => fields
  | _ => []

end Document

end GpuScript
