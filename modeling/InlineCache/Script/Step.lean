import InlineCache.Script.Context
import InlineCache.Dispatch.Target
import InlineCache.Dispatch.Config
/-!
# Steps of a scenario

A scenario is a list of steps run against one context: steps define classes and foreign
types, make arrays of call sites, call through them, redefine methods, register resolver
hooks, and ask questions whose answers show the state.

A `Step` is a step as it runs: its names are resolved, its types are ids, its values are
built and the arrays it names exist. `Reading` makes one from the request object against
the context, so that a faulty request is an input error before anything runs.
-/
namespace InlineCache

/-- Whether a redefinition goes through the registry, which tells its listeners, or
directly to the class or foreign type. -/
inductive Route where
  | registry
  | direct
deriving DecidableEq

/-- What a structure listing shows. -/
inductive Shown where
  | value (v : Value)
  | cls (c : Class)
  | inst (r : ObjectRef)
  | foreignType (t : ForeignType)
  | foreignObject (v : Value)
  | methods (ms : List Method)
  | site (array site : Nat)
  | array (array : Nat)

/-- One operation on the versions of a method table. A change makes a new version from
the latest one; a question asks the version it names. -/
inductive TableOp where
  | add (m : Method)
  | erase (name : String)
  | lookup (name : String) (version : Nat)
  | contains (name : String) (version : Nat)
  | isOverloaded (name : String) (version : Nat)
  | size (version : Nat)

/-- One step, ready to run. -/
inductive Step where
  | defineClass (spec : ClassSpec)
  | defineForeign (name : String) (methods : List Method)
  | newArray (unit : String) (sites : List CallDescriptor) (config : DispatchConfig)
      (register : Option Bool)
  | hook (h : Hook)
  | bind (name : String) (v : Value)
  | invoke (array site : Nat) (recv : Value) (args : List Value) (safe : Bool)
      (saveAs : Option String)
  | reset (array site : Nat)
  | resetAll (array : Nat)
  | generation (array : Nat)
  | state (array : Nat) (site : Option Nat)
  | stats (array : Nat) (site : Option Nat)
  | target (array site : Nat)
  | guardAccept (array site : Nat) (recv : Value) (args : List Value)
  | targetInvoke (array site : Nat) (recv : Value) (args : List Value)
  | sites (array : Nat)
  | resolverCalls
  | resolve (call : CallDescriptor) (recv : Value) (args : List Value)
  | registryLen
  | hubInvalidateAll
  | hubLiveCount
  | hubRegister (array : Nat)
  | dropArray (array : Nat)
  | defineMethod (cls : TypeId) (m : Method) (route : Route)
  | defineStatic (cls : TypeId) (m : Method) (route : Route)
  | removeMethod (cls : TypeId) (name : String) (route : Route)
  | defineForeignMethod (ty : TypeId) (m : Method) (route : Route)
  | classInfo (c : Class)
  /-- Methods found by name, each scored against the arguments and, with `call`, run. -/
  | findMethods (methods : List Method) (recv : Value) (args : List Value) (call : Bool)
  | isSubclassOf (c : Class) (t : TypeId)
  | matchScore (params : List ParamType) (args : List Value)
  | field (v : Value) (name : String)
  | setField (v : Value) (name : String) (given : Value)
  | valueInfo (v : Value)
  | valueEq (a b : Value)
  | describeArgs (args : List Value)
  | registry (id : Option TypeId)
  | allocateTypeId
  | normalizeIndex (index : Int) (len : Nat)
  /-- The builtin operator a method name stands for, if any, tried on the inputs. -/
  | binaryOp (op : Option BinaryOp) (recv : Value) (args : List Value)
  /-- The byte accessor a call by `name` selects, or the forced one, tried on the inputs. -/
  | accessor (name : Option String) (recv : Value) (args : List Value)
      (force : Option AccessorOp)
  | config (c : DispatchConfig)
  /-- The configuration read from the process environment after setting these variables. -/
  | configEnv (env : List (String × String))
  | typeId (raw : TypeId)
  | descriptor (d : CallDescriptor) (args : List Value)
  /-- A method table and operations on its versions, each read when its turn comes. -/
  | methodTable (methods : List Method) (ops : List Json)
  | listing (shown : Shown)
  | valueFrom (v : Value)
  | targetFromParts (t : Target) (recv : Value) (args : List Value)

end InlineCache
