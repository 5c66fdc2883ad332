/-!
# Rounding to binary64

The numbers a request writes become binary64 values through binary64 operations: a
conversion from an integer, a product or a quotient with a power of ten. Each of these is
the exact result rounded to the nearest binary64 value, a tie going to the value whose
last significand bit is zero, and a result beyond the largest finite value becoming an
infinity.

This module computes those roundings on the words themselves, in natural-number
arithmetic from the exact quotient, so a value read from text is fixed by the definitions
here and not by a machine. Only non-negative values occur: the sign of a number is put on
at the end.
-/
namespace InlineCache.Binary64

/-- The word of positive infinity. -/
def infinity : UInt64 := 0x7FF0000000000000

/-- The word of negative zero. -/
def negZero : UInt64 := 0x8000000000000000

/-- The word with its sign bit flipped. -/
def negate (w : UInt64) : UInt64 := w ^^^ negZero

/-- Whether a word is an infinity, of either sign. -/
def isInfinite (w : UInt64) : Bool := (w &&& 0x7FFFFFFFFFFFFFFF) == infinity

/-- Whether a word is a zero, of either sign. -/
def isZero (w : UInt64) : Bool := (w &&& 0x7FFFFFFFFFFFFFFF) == 0

/-- The magnitude of a finite word as `m * 2^q`: the significand with its hidden bit, and
the power of two of its last bit. -/
def parts (w : UInt64) : Nat × Int :=
  let e := ((w >>> 52) &&& 0x7FF).toNat
  let f := (w &&& 0xFFFFFFFFFFFFF).toNat
  if e == 0 then (f, -1074) else (Nat.pow 2 52 + f, (e : Int) - 1075)

/-- `num * 2^k` and `den` as a fraction of natural numbers. -/
def shifted (num den : Nat) (k : Int) : Nat × Nat :=
  if 0 ≤ k then (num * Nat.pow 2 k.toNat, den) else (num, den * Nat.pow 2 (-k).toNat)

/-- The largest `t` with `2^t ≤ num / den`, for positive `num` and `den`. The ratio lies
between `2^(a-b-1)` and `2^(a-b+1)` where `a` and `b` are the bit lengths less one, so
`t` is `a - b` or one less. -/
def floorLog2 (num den : Nat) : Int :=
  let t : Int := (Nat.log2 num : Int) - (Nat.log2 den : Int)
  let (n, d) := shifted num den (-t)
  if d ≤ n then t else t - 1

/-- The nearest integer to `a / b`, a tie going to the even one. -/
def roundHalfEven (a b : Nat) : Nat :=
  let q := a / b
  let r := a % b
  if 2 * r > b || (2 * r == b && q % 2 == 1) then q + 1 else q

/-- The word of the binary64 value nearest to `num / den`, for `den > 0`. The significand
is the quotient rounded at the place of the last bit: 53 bits below the leading one, or
the last bit of the smallest subnormal. A significand that rounds up to `2^53` moves to
the next binade, and a value beyond the largest finite one is infinity. -/
def ofRatio (num den : Nat) : UInt64 :=
  if num == 0 || den == 0 then 0
  else
    let e := max (floorLog2 num den - 52) (-1074)
    let (a, b) := shifted num den (-e)
    let m := roundHalfEven a b
    let (m, e) := if m == Nat.pow 2 53 then (Nat.pow 2 52, e + 1) else (m, e)
    if e > 971 then infinity
    else if m < Nat.pow 2 52 then m.toUInt64
    else ((e + 1075).toNat * Nat.pow 2 52 + (m - Nat.pow 2 52)).toUInt64

/-- The binary64 value nearest to a natural number. -/
def ofNat (n : Nat) : UInt64 := ofRatio n 1

/-- The binary64 value nearest to `10^k`: the entries of a table of powers of ten. -/
def pow10 (k : Nat) : UInt64 := ofNat (Nat.pow 10 k)

/-- The rounded product of two finite non-negative values. -/
def mul (x y : UInt64) : UInt64 :=
  let (mx, qx) := parts x
  let (my, qy) := parts y
  let (n, d) := shifted (mx * my) 1 (qx + qy)
  ofRatio n d

/-- The rounded quotient of two finite non-negative values, the divisor positive. -/
def div (x y : UInt64) : UInt64 :=
  let (mx, qx) := parts x
  let (my, qy) := parts y
  let (n, d) := shifted mx my (qx - qy)
  ofRatio n d

end InlineCache.Binary64
