/-!
# Shortest decimal digits of a binary64 value

A finite binary64 value stands for every real that rounds to it, an interval around
`m * 2^q` whose ends lie halfway to the neighbouring values and belong to it exactly when
`m` is even. The shortest decimal of the value is, among the decimals in that interval,
one with the fewest significant digits, and of those the nearest to the value.

The search is the specification run as a loop in exact natural-number arithmetic: for one
digit, two digits, and so on, it tries the two neighbours of the value on the decimal
grid of that many digits, and stops at the first grid with a neighbour in the interval.
An exact tie between the two neighbours is settled by the caller's `Tie`: upwards,
downwards, or to the even last digit.
-/
namespace InlineCache.Decimal

/-- A finite non-negative binary64 value `m * 2^q`. -/
structure Binary where
  m : Nat
  q : Int
  /-- The gap to the value below is half the gap to the value above. -/
  narrowBelow : Bool
deriving Repr, DecidableEq

/-- The value of the magnitude bits of a finite binary64 word. -/
def Binary.ofBits (b : UInt64) : Binary :=
  let e := ((b >>> 52) &&& 0x7FF).toNat
  let f := (b &&& 0xFFFFFFFFFFFFF).toNat
  if e == 0 then ⟨f, -1074, false⟩ else ⟨Nat.pow 2 52 + f, (e : Int) - 1075, f == 0 && e > 1⟩

/-- A decimal `digits * 10^exp`. -/
structure Dec where
  digits : Nat
  exp : Int
deriving Repr, DecidableEq

/-- Which neighbour an exact tie goes to: the one above, the one below, or the one with
an even last digit. -/
inductive Tie where
  | up
  | down
  | even
deriving Repr, DecidableEq

/-- Compare `a * 10^i` with `n * 2^j`, exactly. -/
def cmpScaled (a : Nat) (i : Int) (n : Nat) (j : Int) : Ordering :=
  compare (a * Nat.pow 10 i.toNat * Nat.pow 2 (-j).toNat) (n * Nat.pow 2 j.toNat * Nat.pow 10 (-i).toNat)

/-- Whether the decimal `d` lies among the reals that round to `x`. -/
def Binary.readsBack (x : Binary) (d : Dec) : Bool :=
  let lo := if x.narrowBelow then 4 * x.m - 1 else 4 * x.m - 2
  let hi := 4 * x.m + 2
  let incl := x.m % 2 == 0
  let cl := cmpScaled d.digits d.exp lo (x.q - 2)
  let ch := cmpScaled d.digits d.exp hi (x.q - 2)
  (cl == .gt || (incl && cl == .eq)) && (ch == .lt || (incl && ch == .eq))

/-- Whether `m * 2^q < 10^k`. -/
def belowPow10 (m : Nat) (q k : Int) : Bool := cmpScaled 1 k m q == .gt

/-- The least `k` with `x < 10^k`, found by stepping up from a lower estimate. -/
def Binary.scale (x : Binary) : Int :=
  -- log10 2 < 30103/100000, so the estimate is at most the answer
  let est : Int := (((Nat.log2 x.m : Nat) : Int) + x.q) * 30103 / 100000 - 2
  let rec up (k : Int) : Nat → Int
    | 0 => k
    | fuel + 1 => if belowPow10 x.m x.q k then k else up (k + 1) fuel
  up est 8

/-- The largest `d` with `d * 10^e ≤ m * 2^q`. -/
def floorOnGrid (m : Nat) (q e : Int) : Nat :=
  (m * Nat.pow 2 q.toNat * Nat.pow 10 (-e).toNat) / (Nat.pow 2 (-q).toNat * Nat.pow 10 e.toNat)

/-- Of two neighbours `d` and `d + 1` on the grid `10^e`, the nearer to `m * 2^q`. -/
def nearer (m : Nat) (q e : Int) (d : Nat) (tie : Tie) : Nat :=
  match cmpScaled (2 * d + 1) e (2 * m) q with
  | .gt => d
  | .lt => d + 1
  | .eq => match tie with
    | .up => d + 1
    | .down => d
    | .even => if d % 2 == 0 then d else d + 1

/-- The decimal without trailing zeros in its digits. -/
def Dec.normalize (d : Dec) : Dec :=
  let rec go (digits : Nat) (exp : Int) : Nat → Dec
    | 0 => ⟨digits, exp⟩
    | fuel + 1 =>
      if digits != 0 && digits % 10 == 0 then go (digits / 10) (exp + 1) fuel else ⟨digits, exp⟩
  go d.digits d.exp 400

/-- The shortest decimal of a positive finite value: the first grid from one digit up
with a neighbour of the value in its interval, and of two such neighbours the nearer.
Should no grid up to seventeen digits hold one, the value's own exact decimal. -/
def Binary.shortest (x : Binary) (tie : Tie) : Dec :=
  let k := x.scale
  let rec search : Nat → Nat → Dec
    | 0, _ => (Dec.normalize ⟨x.m * Nat.pow 5 (-x.q).toNat * Nat.pow 2 x.q.toNat, min x.q 0⟩)
    | fuel + 1, n =>
      let e := k - n
      let d := floorOnGrid x.m x.q e
      let lo := x.readsBack ⟨d, e⟩
      let hi := x.readsBack ⟨d + 1, e⟩
      if lo && hi then Dec.normalize ⟨nearer x.m x.q e d tie, e⟩
      else if lo then Dec.normalize ⟨d, e⟩
      else if hi then Dec.normalize ⟨d + 1, e⟩
      else search fuel (n + 1)
  search 17 1

end InlineCache.Decimal
