import InlineCache.Object.Method
/-!
# Method tables

A method table maps a name to its overloads, in the order they were first added. Tables
are values: adding or removing makes a new table, so a table once captured never changes.
Adding a method whose signature an overload of its name already has replaces that
overload where it stands; otherwise the method goes after the others.
-/
namespace InlineCache

/-- Overloads by name. Every listed name has at least one overload. -/
structure MethodTable where
  /-- Names with their overloads; each name at most once. -/
  entries : List (String × List Method) := []

namespace MethodTable

/-- The empty table. -/
def empty : MethodTable := {}

/-- The overloads of `name`, in order; none when the name is absent. -/
def lookup (t : MethodTable) (name : String) : List Method :=
  match t.entries.find? (fun e => e.1 == name) with
  | some e => e.2
  | none => []

/-- Whether the table has overloads of `name`. -/
def contains (t : MethodTable) (name : String) : Bool := t.entries.any (fun e => e.1 == name)

/-- Whether `name` has more than one overload. -/
def isOverloaded (t : MethodTable) (name : String) : Bool := (t.lookup name).length > 1

/-- The number of names. -/
def size (t : MethodTable) : Nat := t.entries.length

/-- Overloads with `m` added: it replaces the first overload of its signature, or goes last. -/
def addOverload (ms : List Method) (m : Method) : List Method :=
  if ms.any (fun n => n.sameSignature m) then
    let i := ms.findIdx (fun n => n.sameSignature m)
    ms.set i m
  else ms ++ [m]

/-- The table with `m` added under its name. -/
def insert (t : MethodTable) (m : Method) : MethodTable :=
  if t.contains m.name then
    ⟨t.entries.map fun e => if e.1 == m.name then (e.1, addOverload e.2 m) else e⟩
  else ⟨t.entries ++ [(m.name, [m])]⟩

/-- The table built by adding the methods in order. -/
def ofMethods (ms : List Method) : MethodTable := ms.foldl insert empty

/-- The table without any overload of `name`. -/
def erase (t : MethodTable) (name : String) : MethodTable :=
  ⟨t.entries.filter fun e => e.1 != name⟩

end MethodTable

end InlineCache
