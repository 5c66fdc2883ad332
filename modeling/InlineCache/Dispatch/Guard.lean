import InlineCache.Object.Registry
/-!
# Guards

A guard decides in constant time whether a cached target still applies to a receiver and
its arguments. It only compares what it captured at resolution time, type ids, class
identity or the identity of a method table, with the live inputs: it never searches a
table and never changes anything.
-/
namespace InlineCache

/-- The identity of one instance method table of a class: the class and the revision of
its table. A class's later tables have later revisions. -/
structure TableStamp where
  owner : TypeId
  revision : Nat
deriving DecidableEq, Repr

/-- The current instance table stamp of a class. -/
def Class.stamp (c : Class) : TableStamp := ⟨c.id, c.revision⟩

/-- A cheap validity check for a cached target. -/
inductive Guard where
  /-- The receiver is an instance whose class still has this instance table, and the
  arguments have exactly these types. -/
  | dispatchTable (stamp : TableStamp) (table : MethodTable) (argTypes : List TypeId)
  /-- The receiver and the arguments have exactly these types. -/
  | exactTypes (receiver : TypeId) (argTypes : List TypeId)
  /-- The receiver is this class value, and the arguments have exactly these types. -/
  | sameClass (cls : TypeId) (argTypes : List TypeId)
  /-- As `sameClass`, for constructor calls. -/
  | ctor (cls : TypeId) (argTypes : List TypeId)
  /-- The receiver is a byte sequence; with `indexArg` the arguments are one integer,
  without it there are none. -/
  | byteSequence (indexArg : Bool)
  /-- There is one argument, and both operands have exactly these types. -/
  | operands (lhs rhs : TypeId)

namespace Guard

/-- Whether the arguments have exactly the captured types. -/
def sameTypes (shape : List TypeId) (args : List Value) : Bool := shape == Value.shape args

/-- Whether the guard accepts the receiver and the arguments in the registry's state. -/
def accepts (reg : Registry) (g : Guard) (recv : Value) (args : List Value) : Bool :=
  match g with
  | .dispatchTable stamp _ shape =>
    match recv with
    | .object r =>
      (match reg.class? r.cls with
        | some c => c.stamp == stamp
        | none => false) && sameTypes shape args
    | _ => false
  | .exactTypes t shape => recv.typeId == t && sameTypes shape args
  | .sameClass cls shape | .ctor cls shape =>
    match recv with
    | .cls id => id == cls && sameTypes shape args
    | _ => false
  | .byteSequence indexArg =>
    match recv with
    | .bytes _ =>
      if indexArg then
        match args with
        | [.int _] => true
        | _ => false
      else args.isEmpty
    | _ => false
  | .operands lhs rhs =>
    match args with
    | [arg] => recv.typeId == lhs && arg.typeId == rhs
    | _ => false

end Guard

end InlineCache
