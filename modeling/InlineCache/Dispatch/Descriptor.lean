import InlineCache.Value
/-!
# Call descriptors

A call descriptor describes one call expression of a program: the method name, the kind
of call, and optionally the static shape of its arguments. An empty shape admits any
arguments; otherwise the arguments must have the shape's length, and a typed position
must hold a value of exactly that type.
-/
namespace InlineCache

/-- The kind of a call expression. -/
inductive CallKind where
  | inst
  | stat
  | ctor
  | oper
deriving DecidableEq, Repr

/-- The name of a kind of call. -/
def CallKind.name : CallKind → String
  | .inst => "instance"
  | .stat => "static"
  | .ctor => "constructor"
  | .oper => "operator"

/-- The static type of one argument position. -/
inductive ArgKind where
  | dynamic
  | typed (t : TypeId)
deriving DecidableEq, Repr

/-- One call expression. -/
structure CallDescriptor where
  name : String
  params : List ArgKind := []
  kind : CallKind
deriving DecidableEq, Repr

namespace CallDescriptor

/-- The name under which constructors are called. -/
def constructorName : String := "<init>"

/-- Whether an argument fits the kind of its position. -/
def fits (k : ArgKind) (arg : Value) : Bool :=
  match k with
  | .dynamic => true
  | .typed t => arg.typeId == t

/-- Whether the descriptor's shape admits the arguments. -/
def admits (d : CallDescriptor) (args : List Value) : Bool :=
  d.params.isEmpty ||
    (d.params.length == args.length && (d.params.zip args).all fun p => fits p.1 p.2)

/-- The descriptor as `name (kind)`. -/
def display (d : CallDescriptor) : String := d.name ++ " (" ++ d.kind.name ++ ")"

end CallDescriptor

end InlineCache
