import InlineCache.Dispatch.Target
import InlineCache.Dispatch.Descriptor
/-!
# Resolution

The slow path of a call: given the registry, a receiver, a call descriptor and arguments,
find what the call runs and the guard that keeps that choice valid.

The search by receiver: the absent value has no methods; a constructor call needs a class
value and chooses among its constructors; a static call needs a class value and searches
static tables up the superclass chain; an operator call with one argument whose types the
builtin handles is that builtin, and otherwise an instance call. An instance call on a byte
sequence may be a direct accessor; on an instance it searches instance tables up the
chain; on a class value it is a static call; on a foreign object it searches the foreign
type's table; on any other value, the table of its builtin kind.

Overload selection scores each candidate whose arity matches: an untyped parameter scores
0, an exact type 2, a superclass of an instance's class 1, and a type that does not fit
rules the candidate out. The best total wins; a tie at the top is ambiguous.
-/
namespace InlineCache

/-- How well a parameter accepts an argument, if it accepts it at all. -/
def ParamType.score (reg : Registry) (p : ParamType) (arg : Value) : Option Nat :=
  match p with
  | .any => some 0
  | .exact t =>
    if arg.typeId == t then some 2
    else match arg with
      | .object r => if reg.isSubclassOf r.cls t then some 1 else none
      | _ => none

/-- The total score of a method for the arguments, if it accepts them. -/
def Method.matchScore (reg : Registry) (m : Method) (args : List Value) : Option Nat :=
  if args.length != m.params.length then none
  else (m.params.zip args).foldlM (fun total pa => (· + total) <$> pa.1.score reg pa.2) 0

/-- Why a resolution found nothing to run. -/
inductive ResolutionFailure where
  | methodNotFound
  | ambiguous (candidates : Nat)
  | nullReceiver
deriving DecidableEq, Repr

namespace ResolutionFailure

/-- The kind of the failure in answers. -/
def kind : ResolutionFailure → String
  | .methodNotFound => "MethodNotFound"
  | .ambiguous _ => "AmbiguousMatch"
  | .nullReceiver => "NullReceiver"

/-- The text of the failure. -/
def message : ResolutionFailure → String
  | .methodNotFound => "no method matches the call"
  | .ambiguous n => toString n ++ " equally specific methods match the call"
  | .nullReceiver => "receiver is none"

/-- The error a call reports for the failure. -/
def toError (reg : Registry) (f : ResolutionFailure) (d : CallDescriptor) (recv : Value)
    (args : List Value) : RuntimeError :=
  match f with
  | .methodNotFound => .methodNotFound d.name (reg.typeName recv) (reg.describeArgs args)
  | .ambiguous n => .ambiguousMatch d.name (reg.typeName recv) n
  | .nullReceiver => .nullReceiver d.name

end ResolutionFailure

/-- The best-scoring candidate so far, its score and how many share that score. -/
structure Leader where
  method : Method
  score : Nat
  ties : Nat

/-- Take one more candidate into account. -/
def Leader.consider (reg : Registry) (args : List Value) (best : Option Leader) (m : Method) :
    Option Leader :=
  match m.matchScore reg args with
  | none => best
  | some s =>
    match best with
    | some b =>
      if s < b.score then best
      else if s == b.score then some { b with ties := b.ties + 1 }
      else some ⟨m, s, 1⟩
    | none => some ⟨m, s, 1⟩

/-- The single best-scoring candidate; the first of the best when several tie is reported
as ambiguous with their number. -/
def selectMostSpecific (reg : Registry) (cands : List Method) (args : List Value) :
    Except ResolutionFailure Method :=
  match cands.foldl (Leader.consider reg args) none with
  | none => .error .methodNotFound
  | some b => if b.ties == 1 then .ok b.method else .error (.ambiguous b.ties)

namespace Resolve

/-- A static call on the class `cls`. -/
def staticCall (reg : Registry) (cls : TypeId) (d : CallDescriptor) (args : List Value) :
    Except ResolutionFailure Target :=
  match reg.class? cls with
  | none => .error .methodNotFound
  | some c => do
    let m ← selectMostSpecific reg (reg.findStatics c d.name) args
    return Target.staticMethod cls m args

/-- A method of the builtin kind of the receiver. -/
def builtinCall (reg : Registry) (recv : Value) (name : String) (args : List Value) :
    Except ResolutionFailure Target :=
  match reg.foreign? recv.typeId with
  | none => .error .methodNotFound
  | some t => do
    let m ← selectMostSpecific reg (t.methods.lookup name) args
    return Target.foreign recv m args

/-- An instance call. -/
def instanceCall (reg : Registry) (recv : Value) (d : CallDescriptor) (args : List Value) :
    Except ResolutionFailure Target :=
  match recv with
  | .none => .error .nullReceiver
  | .object r =>
    match reg.class? r.cls with
    | none => .error .methodNotFound
    | some c => do
      let m ← selectMostSpecific reg (reg.findMethods c d.name) args
      return Target.selfDescribing c m args
  | .cls id => staticCall reg id d args
  | .foreign _ ty _ =>
    match reg.foreign? ty with
    | none => .error .methodNotFound
    | some t => do
      let m ← selectMostSpecific reg (t.methods.lookup d.name) args
      return Target.foreign recv m args
  | .bytes _ =>
    match AccessorOp.forCall? d.name args with
    | some op => .ok (Target.accessor op)
    | none => builtinCall reg recv d.name args
  | _ => builtinCall reg recv d.name args

/-- An operator call: the builtin when it handles the operands, else an instance call. -/
def operatorCall (reg : Registry) (recv : Value) (d : CallDescriptor) (args : List Value) :
    Except ResolutionFailure Target :=
  match args with
  | [rhs] =>
    match BinaryOp.ofMethodName? d.name with
    | some op =>
      if op.supports recv.typeId rhs.typeId then .ok (Target.operator op recv.typeId rhs.typeId)
      else instanceCall reg recv d args
    | none => instanceCall reg recv d args
  | _ => instanceCall reg recv d args

end Resolve

/-- The full search for a call. -/
def resolve (reg : Registry) (recv : Value) (d : CallDescriptor) (args : List Value) :
    Except ResolutionFailure Target :=
  if recv.isNone then .error .nullReceiver
  else if !d.admits args then .error .methodNotFound
  else match d.kind with
    | .ctor =>
      match recv with
      | .cls id =>
        match reg.class? id with
        | some c => do
          let init ← selectMostSpecific reg c.constructors args
          return Target.ctor id init args
        | none => .error .methodNotFound
      | _ => .error .methodNotFound
    | .stat =>
      match recv with
      | .cls id => Resolve.staticCall reg id d args
      | _ => .error .methodNotFound
    | .oper => Resolve.operatorCall reg recv d args
    | .inst => Resolve.instanceCall reg recv d args

end InlineCache
