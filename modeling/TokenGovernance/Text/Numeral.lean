/-! # Numerals

Whole numbers written in a radix from 2 to 36, with a bound the value stays under. A sign `+` may
stand in front of the digits, and any number of leading zeros may follow it.
-/

namespace TokenGovernance.Numeral

/-- Why a text is no numeral below the bound. -/
inductive Fault
  | empty
  | notADigit
  | tooLarge
  deriving DecidableEq, Repr

def Fault.message : Fault → String
  | .empty => "cannot parse integer from empty string"
  | .notADigit => "invalid digit found in string"
  | .tooLarge => "number too large to fit in target type"

/-- The value of a digit of the radix, letters of either case counting on from ten. -/
def digit? (radix : Nat) (c : Char) : Option Nat :=
  let value? :=
    if '0' ≤ c ∧ c ≤ '9' then some (c.toNat - '0'.toNat)
    else if 'a' ≤ c ∧ c ≤ 'z' then some (c.toNat - 'a'.toNat + 10)
    else if 'A' ≤ c ∧ c ≤ 'Z' then some (c.toNat - 'A'.toNat + 10)
    else none
  value?.filter (· < radix)

/-- Reads digits from the left onto `value`. The first digit that is none, or that takes the value to
the bound, decides the fault. -/
def digits (radix bound : Nat) (value : Nat) : List Char → Except Fault Nat
  | [] => .ok value
  | c :: rest =>
    match digit? radix c with
    | none => .error .notADigit
    | some d =>
      if radix * value + d < bound then digits radix bound (radix * value + d) rest
      else .error .tooLarge

/-- Reads a numeral whose value is below `bound`. -/
def parseChars (radix bound : Nat) : List Char → Except Fault Nat
  | [] => .error .empty
  | ['+'] => .error .notADigit
  | '+' :: rest => digits radix bound 0 rest
  | cs => digits radix bound 0 cs

/-- Reads a numeral whose value is below `bound`. -/
def parse (radix bound : Nat) (s : String) : Except Fault Nat :=
  parseChars radix bound s.toList

end TokenGovernance.Numeral
