import InlineCache.Dispatch.Guard
import InlineCache.Dispatch.Operator
import InlineCache.Dispatch.Accessor
/-!
# Resolved targets

A resolution binds a guard to what a call runs: a method, a constructor with its class, a
byte accessor or a builtin operator. The binding is immutable; a call site replaces it as
a whole. Each kind of dispatch, its variant, comes with the guard that keeps it sound:
table identity for instances of classes, exact types for foreign and builtin receivers,
class identity for static calls and constructors, the byte kind for accessors, and the
operand types for operators.
-/
namespace InlineCache

/-- The dispatch strategy a target specializes. -/
inductive SiteVariant where
  | selfDescribing
  | foreignInstance
  | staticTarget
  | ctorTarget
  | accessor
  | operator
deriving DecidableEq, Repr

namespace SiteVariant

/-- The short name of a variant. -/
def name : SiteVariant → String
  | .selfDescribing => "self-describing"
  | .foreignInstance => "foreign"
  | .staticTarget => "static"
  | .ctorTarget => "constructor"
  | .accessor => "accessor"
  | .operator => "operator"

/-- The variant with this short name. -/
def ofName? : String → Option SiteVariant
  | "self-describing" => some .selfDescribing
  | "foreign" => some .foreignInstance
  | "static" => some .staticTarget
  | "constructor" => some .ctorTarget
  | "accessor" => some .accessor
  | "operator" => some .operator
  | _ => none

end SiteVariant

/-- What a target runs once its guard accepts. -/
inductive Invocable where
  | method (m : Method)
  /-- Make an instance of the class, then run the initializer on it. -/
  | ctor (cls : TypeId) (init : Method)
  | accessor (op : AccessorOp)
  | operator (op : BinaryOp)

/-- The immutable result of a resolution. -/
structure Target where
  /-- The runtime type of the receiver it was resolved for. -/
  owner : TypeId
  variant : SiteVariant
  guard : Guard
  invocable : Invocable
  /-- The argument types seen at resolution. -/
  paramTypes : List TypeId

namespace Target

/-- An instance method of an instance's class, guarded by the class's current table. -/
def selfDescribing (c : Class) (m : Method) (args : List Value) : Target :=
  { owner := c.id, variant := .selfDescribing,
    guard := .dispatchTable c.stamp c.methods (Value.shape args),
    invocable := .method m, paramTypes := Value.shape args }

/-- A method of a foreign or builtin receiver, guarded by exact types. -/
def foreign (recv : Value) (m : Method) (args : List Value) : Target :=
  { owner := recv.typeId, variant := .foreignInstance,
    guard := .exactTypes recv.typeId (Value.shape args),
    invocable := .method m, paramTypes := Value.shape args }

/-- A static method of a class, guarded by the class value. -/
def staticMethod (cls : TypeId) (m : Method) (args : List Value) : Target :=
  { owner := TypeId.class, variant := .staticTarget,
    guard := .sameClass cls (Value.shape args),
    invocable := .method m, paramTypes := Value.shape args }

/-- A constructor of a class, guarded by the class value. -/
def ctor (cls : TypeId) (init : Method) (args : List Value) : Target :=
  { owner := TypeId.class, variant := .ctorTarget,
    guard := .ctor cls (Value.shape args),
    invocable := .ctor cls init, paramTypes := Value.shape args }

/-- A byte accessor. -/
def accessor (op : AccessorOp) : Target :=
  { owner := TypeId.bytes, variant := .accessor,
    guard := .byteSequence (op == .getAt), invocable := .accessor op,
    paramTypes := match op with
      | .length => []
      | .getAt => [TypeId.int] }

/-- A builtin operator on operands of exact types. -/
def operator (op : BinaryOp) (lhs rhs : TypeId) : Target :=
  { owner := lhs, variant := .operator, guard := .operands lhs rhs,
    invocable := .operator op, paramTypes := [rhs] }

end Target

end InlineCache
