import InlineCache.Script.Expr
/-!
# Methods

A method has a name, a declared type per parameter, binding flags and a body. Bodies are
either one of the primitive operations of the builtin kinds of value, or an expression of
the scenario language. Two methods have the same signature when they declare the same
parameter types; a table keeps one method per name and signature.
-/
namespace InlineCache

/-- The declared type of one parameter. -/
inductive ParamType where
  /-- Any value. -/
  | any
  /-- Values of exactly this type, or instances of its subclasses when it is a class. -/
  | exact (t : TypeId)
deriving DecidableEq, Repr

/-- How a method is bound. -/
structure MethodFlags where
  /-- A class-level method, whose receiver is the class value. -/
  isStatic : Bool := false
  /-- An initializer, run on a freshly made instance. -/
  isConstructor : Bool := false
deriving DecidableEq, Repr

namespace MethodFlags

/-- Neither flag. -/
def plain : MethodFlags := {}
/-- The flags of a static method. -/
def «static» : MethodFlags := { isStatic := true }
/-- The flags of a constructor. -/
def ctor : MethodFlags := { isConstructor := true }

end MethodFlags

/-- The primitive operations behind the methods of the builtin kinds of value. -/
inductive Primitive where
  | strLength
  | strUpper
  | strConcat
  | strContains
  | intAbs
  | intToString
  | intMax
  | floatAbs
  | floatFloor
  | boolNegate
  | bytesIsEmpty
deriving DecidableEq, Repr

/-- What a method runs. -/
inductive Body where
  | primitive (p : Primitive)
  | script (e : Expr)

/-- A method. -/
structure Method where
  name : String
  params : List ParamType
  flags : MethodFlags := {}
  body : Body

namespace Method

/-- The number of parameters. -/
def arity (m : Method) : Nat := m.params.length

/-- Whether two methods declare the same parameter types. -/
def sameSignature (m n : Method) : Bool := m.params == n.params

/-- The method with its flags replaced. -/
def withFlags (m : Method) (flags : MethodFlags) : Method := { m with flags }

end Method

end InlineCache
