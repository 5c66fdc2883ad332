import InlineCache.Value
/-!
# The heap

Instances are mutable: setting a field of one is seen through every reference to it. The
heap holds the fields of every instance by address, and counts the foreign objects made,
so that each new instance and each new foreign object has an address of its own.
-/
namespace InlineCache

/-- The state of one instance. -/
structure Instance where
  /-- The id of its class. -/
  cls : TypeId
  /-- Its fields; each name at most once. -/
  fields : List (String × Value) := []

/-- All instances, and the number of foreign objects made so far. -/
structure Heap where
  instances : Array Instance := #[]
  foreignCount : Nat := 0

namespace Heap

/-- A new instance of the class `cls`, without fields. -/
def alloc (h : Heap) (cls : TypeId) : Value × Heap :=
  (.object ⟨h.instances.size, cls⟩, { h with instances := h.instances.push { cls } })

/-- A new foreign object of type `ty` wrapping `payload`. -/
def allocForeign (h : Heap) (ty : TypeId) (payload : Value) : Value × Heap :=
  (.foreign h.foreignCount ty payload, { h with foreignCount := h.foreignCount + 1 })

/-- The instance at `r`. -/
def get? (h : Heap) (r : ObjectRef) : Option Instance := h.instances[r.addr]?

/-- The fields of the instance at `r`. -/
def fields (h : Heap) (r : ObjectRef) : List (String × Value) :=
  match h.get? r with
  | some i => i.fields
  | none => []

/-- The field `name` of the instance at `r`. -/
def field? (h : Heap) (r : ObjectRef) (name : String) : Option Value :=
  ((h.fields r).find? (·.1 == name)).map (·.2)

/-- Fields with `name` set to `v`, replacing an earlier value. -/
def setIn (fields : List (String × Value)) (name : String) (v : Value) : List (String × Value) :=
  if fields.any (·.1 == name) then fields.map fun f => if f.1 == name then (name, v) else f
  else fields ++ [(name, v)]

/-- The heap with the field `name` of the instance at `r` set to `v`. -/
def setField (h : Heap) (r : ObjectRef) (name : String) (v : Value) : Heap :=
  { h with instances := h.instances.modify r.addr fun i => { i with fields := setIn i.fields name v } }

end Heap

end InlineCache
