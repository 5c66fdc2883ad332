import InlineCache.Object.Registry
import InlineCache.Error
/-!
# Builtin binary operators

Five operator methods have a builtin meaning on numbers: `plus`, `minus`, `multiply`,
`div` and `compareTo`; `plus` and `compareTo` also join and compare strings. Integer
arithmetic is exact on 64-bit integers and fails when the exact result does not fit;
division rounds towards zero and fails on a zero divisor. An integer meeting a float is
rounded to the nearest float first. A three-way comparison answers -1, 0 or 1, and fails
when a NaN is involved.
-/
namespace InlineCache

/-- A builtin operation on two operands. -/
inductive BinaryOp where
  | add
  | sub
  | mul
  | div
  | compareTo
deriving DecidableEq, Repr

namespace BinaryOp

/-- The operation an operator method name stands for. -/
def ofMethodName? : String → Option BinaryOp
  | "plus" => some .add
  | "minus" => some .sub
  | "multiply" => some .mul
  | "div" => some .div
  | "compareTo" => some .compareTo
  | _ => none

/-- The name of the operation in answers. -/
def name : BinaryOp → String
  | .add => "Add"
  | .sub => "Sub"
  | .mul => "Mul"
  | .div => "Div"
  | .compareTo => "CompareTo"

/-- Whether a type id is that of a number. -/
def isNumeric (t : TypeId) : Bool := t == TypeId.int || t == TypeId.float

/-- Whether the builtin handles operands of these types. -/
def supports (op : BinaryOp) (lhs rhs : TypeId) : Bool :=
  match op with
  | .add | .compareTo => (lhs == TypeId.str && rhs == TypeId.str) || (isNumeric lhs && isNumeric rhs)
  | _ => isNumeric lhs && isNumeric rhs

/-- The least 64-bit integer. -/
def minInt : Int := -9223372036854775808

/-- The greatest 64-bit integer. -/
def maxInt : Int := 9223372036854775807

/-- The integer as a 64-bit value, or an overflow error when it does not fit. -/
def fitInt (n : Int) : Outcome Value :=
  if minInt ≤ n && n ≤ maxInt then .ok (.int (Int64.ofInt n))
  else .error (.raised "integer overflow")

/-- An ordering as -1, 0 or 1. -/
def orderValue : Ordering → Value
  | .lt => .int (-1)
  | .eq => .int 0
  | .gt => .int 1

/-- The operation on two integers. -/
def applyInt (op : BinaryOp) (a b : Int64) : Outcome Value :=
  match op with
  | .add => fitInt (a.toInt + b.toInt)
  | .sub => fitInt (a.toInt - b.toInt)
  | .mul => fitInt (a.toInt * b.toInt)
  | .div => if b.toInt == 0 then .error (.raised "division by zero")
            else fitInt (a.toInt.tdiv b.toInt)
  | .compareTo => .ok (orderValue (compare a.toInt b.toInt))

/-- The operation on two floats. -/
def applyFloat (op : BinaryOp) (a b : Float) : Outcome Value :=
  match op with
  | .add => .ok (.float (a + b))
  | .sub => .ok (.float (a - b))
  | .mul => .ok (.float (a * b))
  | .div => .ok (.float (a / b))
  | .compareTo =>
    if a.isNaN || b.isNaN then .error (.raised "cannot compare NaN")
    else if a < b then .ok (.int (-1))
    else if a == b then .ok (.int 0)
    else .ok (.int 1)

/-- The operation on two operands, by the kinds of their values. -/
def apply (reg : Registry) (op : BinaryOp) (lhs rhs : Value) : Outcome Value :=
  match lhs, rhs with
  | .int a, .int b => op.applyInt a b
  | .int a, .float b => op.applyFloat a.toFloat b
  | .float a, .int b => op.applyFloat a b.toFloat
  | .float a, .float b => op.applyFloat a b
  | .str a, .str b =>
    match op with
    | .add => .ok (.str (a ++ b))
    | .compareTo => .ok (orderValue (compare a b))
    | _ => .error (.typeMismatch "number" (reg.typeName lhs))
  | _, _ => .error (.typeMismatch "number" (reg.typeName lhs))

end BinaryOp

end InlineCache
