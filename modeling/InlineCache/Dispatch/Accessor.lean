import InlineCache.Object.Registry
import InlineCache.Error
/-!
# Byte-sequence accessors

Calls of `size` or `length` without arguments, and of `getAt` with one integer, on a byte
sequence bypass method tables. A negative index counts from the end, `-1` being the last
byte; an index still outside the sequence after that is an error, and nothing is clamped.
Lengths beyond the largest 64-bit integer are treated as that integer in the arithmetic,
and reported as they are.
-/
namespace InlineCache

/-- A direct operation on byte sequences. -/
inductive AccessorOp where
  | length
  | getAt
deriving DecidableEq, Repr

/-- The greatest 64-bit integer, as a natural number. -/
def maxIndex : Nat := 9223372036854775807

/-- The position `index` stands for in a sequence of `len` elements. -/
def normalizeIndex (index : Int) (len : Nat) : Outcome Nat :=
  let lenI : Int := min len maxIndex
  let adjusted := if index < 0 then index + lenI else index
  if 0 ≤ adjusted && adjusted < lenI then .ok adjusted.toNat
  else .error (.indexOutOfRange index len)

namespace AccessorOp

/-- The name of the accessor in answers. -/
def name : AccessorOp → String
  | .length => "Length"
  | .getAt => "GetAt"

/-- The accessor a call on a byte sequence selects, if any. -/
def forCall? (name : String) (args : List Value) : Option AccessorOp :=
  match name, args with
  | "size", [] => some .length
  | "length", [] => some .length
  | "getAt", [.int _] => some .getAt
  | _, _ => none

/-- Run the accessor on a receiver and arguments. -/
def apply (reg : Registry) (op : AccessorOp) (recv : Value) (args : List Value) : Outcome Value :=
  match recv with
  | .bytes b =>
    match op with
    | .length => .ok (.int (Int64.ofNat b.size))
    | .getAt =>
      match args with
      | [.int i] =>
        match normalizeIndex i.toInt b.size with
        | .ok slot => .ok (.int (Int64.ofNat (b.data.getD slot 0).toNat))
        | .error e => .error e
      | [other] => .error (.typeMismatch "int" (reg.typeName other))
      | _ => .error (.raised "getAt expects exactly one index")
  | _ => .error (.typeMismatch "bytes" (reg.typeName recv))

end AccessorOp

end InlineCache
