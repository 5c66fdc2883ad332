import InlineCache.Object.Table
/-!
# Classes and foreign types

A class has a name, an id, a line of ancestors, an instance method table, a static method
table, a fixed list of constructors and a version that counts its redefinitions. Its
method tables are replaced, never edited, on redefinition; the instance table also carries
a revision number, which tells a table apart from every later table of the class, so that
a guard can ask "is this still the table I saw" without searching it.

A foreign type describes a value of the host: a name, an id and a method table.
-/
namespace InlineCache

/-- A user class. -/
structure Class where
  name : String
  id : TypeId
  /-- The proper ancestors, nearest first: the superclass, its superclass, and so on. -/
  lineage : List TypeId := []
  /-- Instance methods. -/
  methods : MethodTable := {}
  /-- Class-level methods. -/
  statics : MethodTable := {}
  /-- Initializers, in the order given. -/
  constructors : List Method := []
  /-- Number of redefinitions so far. -/
  version : Nat := 0
  /-- Number of times the instance table was replaced. -/
  revision : Nat := 0

namespace Class

/-- The direct superclass. -/
def superclass? (c : Class) : Option TypeId := c.lineage.head?

/-- The class followed by its ancestors. -/
def ancestry (c : Class) : List TypeId := c.id :: c.lineage

/-- Whether the class is `t` or inherits from it. -/
def isSubclassOf (c : Class) (t : TypeId) : Bool := c.ancestry.contains t

/-- Add or replace an instance method; the instance table and the version move on. -/
def defineMethod (c : Class) (m : Method) : Class :=
  { c with methods := c.methods.insert m, version := c.version + 1, revision := c.revision + 1 }

/-- Add or replace a static method, which is marked static; the version moves on. -/
def defineStatic (c : Class) (m : Method) : Class :=
  { c with statics := c.statics.insert (m.withFlags MethodFlags.static), version := c.version + 1 }

/-- Remove every instance overload of `name`; `none` when the class has none. -/
def removeMethod? (c : Class) (name : String) : Option Class :=
  if c.methods.contains name then
    some { c with methods := c.methods.erase name, version := c.version + 1,
                  revision := c.revision + 1 }
  else none

end Class

/-- The description of a class before it has an id. -/
structure ClassSpec where
  name : String
  /-- The superclass and its own ancestors, nearest first. -/
  lineage : List TypeId := []
  methods : List Method := []
  statics : List Method := []
  constructors : List Method := []

/-- The class described, under the id `id`: statics are marked static and constructors
marked as constructors. -/
def ClassSpec.build (s : ClassSpec) (id : TypeId) : Class where
  name := s.name
  id := id
  lineage := s.lineage
  methods := MethodTable.ofMethods s.methods
  statics := MethodTable.ofMethods (s.statics.map (·.withFlags MethodFlags.static))
  constructors := s.constructors.map (·.withFlags MethodFlags.ctor)

/-- A type of host values. -/
structure ForeignType where
  name : String
  id : TypeId
  methods : MethodTable := {}

/-- Add or replace a method of a foreign type. -/
def ForeignType.defineMethod (t : ForeignType) (m : Method) : ForeignType :=
  { t with methods := t.methods.insert m }

end InlineCache
