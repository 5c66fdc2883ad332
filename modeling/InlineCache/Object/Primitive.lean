import InlineCache.Object.Registry
import InlineCache.Error
import InlineCache.Text.Unicode.Upper
/-!
# Primitive methods of the builtin kinds

The methods the registry knows for strings, integers, floats, booleans and byte
sequences. Each checks the kind of its receiver, and of its argument where it takes one,
and fails with a type mismatch naming the kind it expected. A string's length counts
characters; its upper case is the full Unicode mapping; `abs` of the least integer
overflows. A one-parameter primitive called without arguments checks its receiver and
then panics, reading an argument that is not there.
-/
namespace InlineCache

/-- Whether `needle` occurs in `hay` as a contiguous run. -/
def isInfix (needle : List Char) : List Char → Bool
  | [] => needle.isEmpty
  | c :: rest => needle.isPrefixOf (c :: rest) || isInfix needle rest

namespace Primitive

/-- The receiver as a string. -/
def expectStr (reg : Registry) (v : Value) : Outcome String :=
  match v with
  | .str s => .ok s
  | _ => .error (.typeMismatch "str" (reg.typeName v))

/-- The value as an integer. -/
def expectInt (reg : Registry) (v : Value) : Outcome Int64 :=
  match v with
  | .int n => .ok n
  | _ => .error (.typeMismatch "int" (reg.typeName v))

/-- The value as a float. -/
def expectFloat (reg : Registry) (v : Value) : Outcome Float :=
  match v with
  | .float x => .ok x
  | _ => .error (.typeMismatch "float" (reg.typeName v))

/-- The argument of a one-parameter primitive: the first one. Reading it when there are
no arguments is a panic. -/
def firstArg (args : List Value) : Except Panic Value :=
  match args with
  | v :: _ => .ok v
  | [] => .error Panic.noFirstArgument

/-- A primitive that takes one argument: the receiver is checked first, then the first
argument is read and checked. -/
def withArg {α : Type} (recv : Outcome α) (args : List Value) (expect : Value → Outcome α)
    (f : α → α → Value) : Except Panic (Outcome Value) :=
  match recv with
  | .error e => .ok (.error e)
  | .ok x => do
    let a ← firstArg args
    return (f x <$> expect a)

/-- Run a primitive on a receiver and arguments. -/
def run (reg : Registry) (p : Primitive) (recv : Value) (args : List Value) :
    Except Panic (Outcome Value) :=
  match p with
  | .strLength => pure do
    let s ← expectStr reg recv
    return .int (Int64.ofNat s.length)
  | .strUpper => pure do
    let s ← expectStr reg recv
    return .str (Unicode.upper s)
  | .strConcat => withArg (expectStr reg recv) args (expectStr reg) fun s t => .str (s ++ t)
  | .strContains =>
    withArg (expectStr reg recv) args (expectStr reg) fun s t => .bool (isInfix t.toList s.toList)
  | .intAbs => pure do
    let n ← expectInt reg recv
    if n.toInt == -9223372036854775808 then throw (.raised "integer overflow in abs")
    return .int (Int64.ofInt n.toInt.natAbs)
  | .intToString => pure do
    let n ← expectInt reg recv
    return .str (toString n.toInt)
  | .intMax =>
    withArg (expectInt reg recv) args (expectInt reg) fun n m => .int (if n.toInt ≥ m.toInt then n else m)
  | .floatAbs => pure do
    let x ← expectFloat reg recv
    return .float x.abs
  | .floatFloor => pure do
    let x ← expectFloat reg recv
    return .float x.floor
  | .boolNegate =>
    match recv with
    | .bool b => pure (.ok (.bool !b))
    | _ => pure (.error (.typeMismatch "bool" (reg.typeName recv)))
  | .bytesIsEmpty =>
    match recv with
    | .bytes b => pure (.ok (.bool (b.size == 0)))
    | _ => pure (.error (.typeMismatch "bytes" (reg.typeName recv)))

end Primitive

end InlineCache
