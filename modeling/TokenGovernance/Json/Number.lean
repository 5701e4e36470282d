import TokenGovernance.Json.Fault
import TokenGovernance.Text.Numeral

/-! # JSON numbers in text

A number without point and exponent is whole if it fits 64 bits; any other is a double number. Its
significand takes the digits that fit 64 bits, and the digits left over only count as powers of ten.
-/

namespace TokenGovernance.Json

def digitValue (c : Char) : Nat :=
  c.toNat - '0'.toNat

def isDigit (c : Char) : Bool :=
  '0' ≤ c && c ≤ '9'

/-- Appends digits to a significand as long as it fits 64 bits, and counts them. -/
def takeDigits (significand : Nat) : List Char → Nat × Nat
  | [] => (significand, 0)
  | c :: rest =>
    let next := 10 * significand + digitValue c
    if next < UInt64.size then
      let (s, count) := takeDigits next rest
      (s, count + 1)
    else (significand, 0)

/-- The value of exponent digits, or how many of them reach past 31 bits. -/
def exponentValue (value count : Nat) : List Char → Except Nat Nat
  | [] => .ok value
  | c :: rest =>
    let next := 10 * value + digitValue c
    if next < 2147483648 then exponentValue next (count + 1) rest else .error (count + 1)

/-- The exponent part of a number: its sign, its digits, and the offset of the first of them. -/
structure Exponent where
  negative : Bool
  digits : List Char
  offset : Nat

/-- The parts of a number, and the offset behind it. -/
structure Numeral where
  negative : Bool
  whole : List Char
  fraction : List Char
  pointed : Bool
  exponent : Option Exponent
  stop : Nat

/-- A double number from its parts. Infinity is refused. -/
def double (negative : Bool) (significand : Nat) (exponent : Int) (stop : Nat) : Except Fault Number :=
  match Binary64.ofDecimal? negative significand exponent with
  | some x => .ok (.double x)
  | none => .error (Malformed.numberTooLarge.atOffset stop)

def Numeral.value (n : Numeral) : Except Fault Number :=
  let (s, taken) := takeDigits 0 n.whole
  let skipped := n.whole.length - taken
  if !n.pointed && n.exponent.isNone && skipped = 0 then
    if n.negative then
      if 0 < s ∧ s ≤ 9223372036854775808 then .ok (.whole (-s)) else double true s 0 n.stop
    else .ok (.whole s)
  else
    let (s, places) := takeDigits s n.fraction
    let base : Int := (skipped : Int) - places
    match n.exponent with
    | none => double n.negative s base n.stop
    | some e =>
      match exponentValue 0 0 e.digits with
      | .ok v => double n.negative s (if e.negative then base - v else base + v) n.stop
      | .error count =>
        if s ≠ 0 ∧ !e.negative then .error (Malformed.numberTooLarge.atOffset (e.offset + count))
        else double n.negative 0 0 n.stop

end TokenGovernance.Json
