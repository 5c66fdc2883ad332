import InlineCache.Object.Class
/-!
# The type registry

The registry knows every class and foreign type by id and hands out the ids of new types:
the k-th id it hands out is 256 + k, whether for a class, a foreign type or a bare
allocation. It is also the one place through which redefinitions are meant to go, so that
whoever listens can be told; telling the listeners is the caller's part.

The registry made with builtins also knows the method tables of the kinds `str`, `int`,
`float`, `bool` and `bytes`, under their builtin ids.
-/
namespace InlineCache

/-- Every class and foreign type, and the number of ids handed out. -/
structure Registry where
  /-- Classes, in the order they were defined. -/
  classes : List Class := []
  /-- Foreign types, in the order they were registered. -/
  foreignTypes : List ForeignType := []
  /-- How many ids have been handed out. -/
  allocated : Nat := 0

namespace Registry

/-- The id the next allocation returns: 256 plus the number handed out, as a 32-bit word,
so that the ids wrap around once 2^32 − 256 of them have been handed out. -/
def nextId (r : Registry) : UInt32 := (TypeId.firstUser + r.allocated).toUInt32

/-- The class with this id. -/
def class? (r : Registry) (id : TypeId) : Option Class := r.classes.find? (·.id == id)

/-- The foreign type with this id. -/
def foreign? (r : Registry) (id : TypeId) : Option ForeignType :=
  r.foreignTypes.find? (·.id == id)

/-- Whether a class or a foreign type has this id. -/
def contains (r : Registry) (id : TypeId) : Bool := (r.class? id).isSome || (r.foreign? id).isSome

/-- The number of classes and foreign types. -/
def size (r : Registry) : Nat := r.classes.length + r.foreignTypes.length

/-- Hand out the next id. -/
def allocate (r : Registry) : TypeId × Registry :=
  (⟨r.nextId⟩, { r with allocated := r.allocated + 1 })

/-- Register a foreign type under its id, replacing one of the same id. -/
def registerForeign (r : Registry) (t : ForeignType) : Registry :=
  { r with foreignTypes := r.foreignTypes.filter (·.id != t.id) ++ [t] }

/-- Build the described class under a new id and register it. -/
def defineClass (r : Registry) (s : ClassSpec) : Class × Registry :=
  let (id, r) := r.allocate
  let c := s.build id
  (c, { r with classes := r.classes ++ [c] })

/-- Register a new foreign type with these methods under a new id. -/
def defineForeign (r : Registry) (name : String) (methods : List Method) : ForeignType × Registry :=
  let (id, r) := r.allocate
  let t : ForeignType := { name, id, methods := MethodTable.ofMethods methods }
  (t, r.registerForeign t)

/-- Apply `f` to the class with this id. -/
def updateClass (r : Registry) (id : TypeId) (f : Class → Class) : Registry :=
  { r with classes := r.classes.map fun c => if c.id == id then f c else c }

/-- Apply `f` to the foreign type with this id. -/
def updateForeign (r : Registry) (id : TypeId) (f : ForeignType → ForeignType) : Registry :=
  { r with foreignTypes := r.foreignTypes.map fun t => if t.id == id then f t else t }

/-- The chain of `id`'s classes, nearest first, as they are now. -/
def ancestors (r : Registry) (c : Class) : List Class := c.ancestry.filterMap r.class?

/-- The instance overloads of `name` from the nearest class of the chain that has any. -/
def findMethods (r : Registry) (c : Class) (name : String) : List Method :=
  match (r.ancestors c).find? (·.methods.contains name) with
  | some k => k.methods.lookup name
  | none => []

/-- The static overloads of `name`, searched the same way. -/
def findStatics (r : Registry) (c : Class) (name : String) : List Method :=
  match (r.ancestors c).find? (·.statics.contains name) with
  | some k => k.statics.lookup name
  | none => []

/-- Whether the class `cls` is `t` or inherits from it. -/
def isSubclassOf (r : Registry) (cls t : TypeId) : Bool :=
  match r.class? cls with
  | some c => c.isSubclassOf t
  | none => false

/-- The name of a value's type: its class or foreign type, else its builtin name. -/
def typeName (r : Registry) (v : Value) : String :=
  match v with
  | .object ref => ((r.class? ref.cls).map (·.name)).getD "object"
  | .foreign _ ty _ => ((r.foreign? ty).map (·.name)).getD "object"
  | other => other.typeId.builtinName?.getD "object"

/-- The type names of the arguments, joined by ", ". -/
def describeArgs (r : Registry) (args : List Value) : String :=
  ", ".intercalate (args.map r.typeName)

/-- A method of a builtin kind. -/
def primitiveMethod (name : String) (params : List ParamType) (p : Primitive) : Method :=
  { name, params, body := .primitive p }

/-- A builtin kind with its methods. -/
def builtinType (name : String) (id : TypeId) (methods : List Method) : ForeignType :=
  { name, id, methods := MethodTable.ofMethods methods }

/-- The method tables of the builtin kinds. -/
def builtinTypes : List ForeignType :=
  let str := TypeId.str
  let int := TypeId.int
  [ builtinType "str" str
      [ primitiveMethod "length" [] Primitive.strLength,
        primitiveMethod "toUpperCase" [] Primitive.strUpper,
        primitiveMethod "concat" [ParamType.exact str] Primitive.strConcat,
        primitiveMethod "contains" [ParamType.exact str] Primitive.strContains ],
    builtinType "int" int
      [ primitiveMethod "abs" [] Primitive.intAbs,
        primitiveMethod "toString" [] Primitive.intToString,
        primitiveMethod "max" [ParamType.exact int] Primitive.intMax ],
    builtinType "float" TypeId.float
      [ primitiveMethod "abs" [] Primitive.floatAbs,
        primitiveMethod "floor" [] Primitive.floatFloor ],
    builtinType "bool" TypeId.bool [ primitiveMethod "negate" [] Primitive.boolNegate ],
    builtinType "bytes" TypeId.bytes [ primitiveMethod "isEmpty" [] Primitive.bytesIsEmpty ] ]

/-- The empty registry. -/
def empty : Registry := {}

/-- The registry that knows the builtin kinds. -/
def withBuiltins : Registry := builtinTypes.foldl registerForeign empty

end Registry

end InlineCache
