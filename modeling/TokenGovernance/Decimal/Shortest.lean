/-! # Shortest decimals

The shortest decimal number that a binary fraction is the nearest neighbour of. A positive fraction is
`m · 2 ^ q`; every real closer to it than to the next fractions above and below rounds to it, and the
two midpoints round to it when `m` is even.
-/

namespace TokenGovernance.Decimal

/-- A number `digits · 10 ^ exponent`. -/
structure Scaled where
  digits : Nat
  exponent : Int
  deriving DecidableEq, Repr

/-- A positive rational as numerator and denominator, and the ends of the interval that rounds to it
over the same denominator. -/
structure Interval where
  low : Nat
  middle : Nat
  high : Nat
  denominator : Nat
  closed : Bool

/-- The interval of `m · 2 ^ q`. Below a power of two the next fraction is only half as far away. -/
def Interval.ofBinary (m : Nat) (q : Int) (closerBelow : Bool) : Interval :=
  let up := Nat.pow 2 (q - 2).toNat
  { low := (4 * m - if closerBelow then 1 else 2) * up
    middle := 4 * m * up
    high := (4 * m + 2) * up
    denominator := Nat.pow 2 (2 - q).toNat
    closed := m % 2 = 0 }

/-- Numerator and denominator of `x / d` counted in units of `10 ^ e`. -/
def inUnits (x d : Nat) (e : Int) : Nat × Nat :=
  (x * Nat.pow 10 (-e).toNat, d * Nat.pow 10 e.toNat)

/-- Whether `n · 10 ^ e` rounds to the middle. -/
def Interval.holds (i : Interval) (n : Nat) (e : Int) : Bool :=
  let (low, d) := inUnits i.low i.denominator e
  let (high, _) := inUnits i.high i.denominator e
  if i.closed then low ≤ n * d && n * d ≤ high else low < n * d && n * d < high

/-- The power of ten of the leading digit of `x / d`. -/
def leadingPower (x d : Nat) : Int :=
  if d ≤ x then (Nat.toDigits 10 (x / d)).length - 1
  else
    let k := (Nat.toDigits 10 (d / x)).length
    if x * Nat.pow 10 (k - 1) = d then -((k : Int) - 1) else -(k : Int)

/-- The neighbour of the middle that rounds to it on the grid of `10 ^ e`, the nearer one if both do,
and of two equally near ones the even one. -/
def Interval.onGrid (i : Interval) (e : Int) : Option Nat :=
  let (x, d) := inUnits i.middle i.denominator e
  let below := x / d
  let twice := 2 * (x % d)
  match i.holds below e, i.holds (below + 1) e with
  | true, false => some below
  | false, true => some (below + 1)
  | true, true =>
    if twice < d ∨ (twice = d ∧ below % 2 = 0) then some below else some (below + 1)
  | false, false => none

/-- A number without the zeros its digits end in. -/
def Scaled.reduce : Nat → Scaled → Scaled
  | 0, s => s
  | fuel + 1, s =>
    if s.digits ≠ 0 ∧ s.digits % 10 = 0 then reduce fuel ⟨s.digits / 10, s.exponent + 1⟩ else s

/-- The first hit on the grids of one digit, two digits, and so on up to seventeen. -/
def shortest (m : Nat) (q : Int) (closerBelow : Bool) : Scaled :=
  let i := Interval.ofBinary m q closerBelow
  let power := leadingPower i.middle i.denominator
  let hit := (List.range 17).findSome? fun (n : Nat) =>
    let e := power - (n : Int)
    (i.onGrid e).map fun digits => Scaled.mk digits e
  (hit.getD ⟨m, q⟩).reduce 20

end TokenGovernance.Decimal
