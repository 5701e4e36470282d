import TokenGovernance.Decimal.Shortest

/-! # Binary fractions of 64 bits

Finite IEEE 754 double numbers by their bits: scaled by powers of ten when they are read, and written
with the fewest digits that read back.
-/

namespace TokenGovernance

/-- A double number, by its bits. -/
structure Binary64 where
  bits : UInt64
  deriving DecidableEq, Repr

namespace Binary64

def ofFloat (x : Float) : Binary64 :=
  ⟨x.toBits⟩

def neg (x : Binary64) : Binary64 :=
  ⟨x.bits ^^^ 0x8000000000000000⟩

/-- Scales `x` by `10 ^ e` in double arithmetic: one multiplication or division by a power up to 308, after
as many divisions by `10 ^ 308` as it takes. Nothing when the product is infinite. -/
def scale : Nat → Float → Int → Option Float
  | fuel, x, e =>
    if e.natAbs ≤ 308 then
      if 0 ≤ e then
        let y := x * Float.ofScientific 1 false e.natAbs
        if y.isInf then none else some y
      else some (x / Float.ofScientific 1 false e.natAbs)
    else if x == 0.0 then some x
    else if 0 ≤ e then none
    else match fuel with
      | 0 => some 0.0
      | fuel + 1 => scale fuel (x / 1e308) (e + 308)

/-- The double number read from a significand below `2 ^ 64` and a power of ten. -/
def ofDecimal? (negative : Bool) (significand : Nat) (exponent : Int) : Option Binary64 :=
  (scale exponent.natAbs significand.toUInt64.toFloat exponent).map fun x =>
    if negative then (ofFloat x).neg else ofFloat x

def isNegative (x : Binary64) : Bool :=
  x.bits ≥ 0x8000000000000000

/-- The number of fractions between one power of two and the next, `2 ^ 52`. -/
def fractionSize : Nat := 0x10000000000000

/-- The shortest decimal for the absolute value, nothing for zero. -/
def magnitude? (x : Binary64) : Option Decimal.Scaled :=
  let biased : Nat := (x.bits.toNat / fractionSize) % 2048
  let fraction : Nat := x.bits.toNat % fractionSize
  if biased = 0 then
    if fraction = 0 then none else some (Decimal.shortest fraction (-1074) false)
  else
    some (Decimal.shortest (fractionSize + fraction) ((biased : Int) - 1075) (fraction = 0 && biased > 1))

/-- How a decimal number is laid out: between the two powers its digits stand around a point, with a
zero behind the point if nothing else does; outside them one digit stands before the point and the
power of ten follows with its sign. -/
structure Layout where
  least : Int
  greatest : Int

/-- Powers from -5 to 15 are positional. -/
def layout : Layout :=
  ⟨-5, 15⟩

def Layout.write (l : Layout) (s : Decimal.Scaled) : String :=
  let digits := Nat.toDigits 10 s.digits
  let power : Int := s.exponent + digits.length - 1
  if l.least ≤ power ∧ power ≤ l.greatest then
    if power < 0 then
      String.ofList ("0.".toList ++ List.replicate (-power - 1).toNat '0' ++ digits)
    else
      let whole := digits.take (power.toNat + 1)
      let rest := digits.drop (power.toNat + 1)
      String.ofList (whole ++ List.replicate (power.toNat + 1 - whole.length) '0' ++ '.' ::
        if rest.isEmpty then ['0'] else rest)
  else
    let point := if digits.length = 1 then digits else digits.take 1 ++ '.' :: digits.drop 1
    String.ofList (point ++ 'e' :: (if power < 0 then '-' else '+') :: Nat.toDigits 10 power.natAbs)

def text (x : Binary64) : String :=
  (if x.isNegative then "-" else "") ++
    match x.magnitude? with
    | none => "0.0"
    | some s => layout.write s

end Binary64
end TokenGovernance
