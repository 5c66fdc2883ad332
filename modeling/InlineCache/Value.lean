import InlineCache.Object.TypeId
/-!
# Values

The values that flow through calls: the absent value, scalars, strings, byte sequences,
and references to instances, foreign objects and classes. Instances and foreign objects
have identity: a reference carries a heap address, and two references are the same object
exactly when their addresses agree. An instance never changes its class and a foreign
object never changes its type or payload, so a reference carries those too, and the type
id of every value can be read off the value alone.
-/
namespace InlineCache

/-- A reference to an instance: its heap address and the class it was made from. -/
structure ObjectRef where
  /-- Where the instance's fields live. -/
  addr : Nat
  /-- The id of the instance's class. -/
  cls : TypeId
deriving DecidableEq, Repr

/-- A runtime value. -/
inductive Value where
  | none
  | bool (b : Bool)
  | int (n : Int64)
  | float (x : Float)
  | str (s : String)
  | bytes (b : ByteArray)
  | object (r : ObjectRef)
  /-- A foreign object: its identity, its foreign type and the value it wraps. -/
  | foreign (addr : Nat) (ty : TypeId) (payload : Value)
  /-- A class, named by its id. -/
  | cls (id : TypeId)

instance : Inhabited Value := ⟨.none⟩

/-- A value given as it is, with no identity and no type of the registry: the absent value,
a truth value, a number, a string or a byte sequence. -/
inductive Scalar where
  | none
  | bool (b : Bool)
  | int (n : Int64)
  | float (x : Float)
  | str (s : String)
  | bytes (b : ByteArray)

/-- The scalar as a value. -/
def Scalar.value : Scalar → Value
  | .none => .none
  | .bool b => .bool b
  | .int n => .int n
  | .float x => .float x
  | .str s => .str s
  | .bytes b => .bytes b

namespace Value

/-- The runtime type of a value. -/
def typeId : Value → TypeId
  | .none => TypeId.none
  | .bool _ => TypeId.bool
  | .int _ => TypeId.int
  | .float _ => TypeId.float
  | .str _ => TypeId.str
  | .bytes _ => TypeId.bytes
  | .object r => r.cls
  | .foreign _ ty _ => ty
  | .cls _ => TypeId.class

/-- The runtime types of a list of values, in order. -/
def shape (vs : List Value) : List TypeId := vs.map typeId

/-- Whether the value is the absent value. -/
def isNone : Value → Bool
  | .none => true
  | _ => false

/-- Equality of values: scalars, strings and bytes by content (floats as IEEE numbers,
so a NaN equals nothing), objects, foreign objects and classes by identity. -/
def equals : Value → Value → Bool
  | .none, .none => true
  | .bool a, .bool b => a == b
  | .int a, .int b => a == b
  | .float a, .float b => a == b
  | .str a, .str b => a == b
  | .bytes a, .bytes b => a.data == b.data
  | .object a, .object b => a.addr == b.addr
  | .foreign a _ _, .foreign b _ _ => a == b
  | .cls a, .cls b => a == b
  | _, _ => false

end Value

end InlineCache
