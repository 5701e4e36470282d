import TokenGovernance.Text.Quoted
import TokenGovernance.Text.Blank

/-! # Hexadecimal bytes

Bytes as pairs of hexadecimal digits, written in upper or lower case and read in either.
-/

namespace TokenGovernance.Hex

def digit (n : Nat) : Char :=
  if n < 10 then Char.ofNat ('0'.toNat + n) else Char.ofNat ('A'.toNat + (n - 10))

/-- The digits of bytes, the high half of each byte first. -/
def chars (bytes : List UInt8) : List Char :=
  bytes.flatMap fun b => [digit (b.toNat / 16), digit (b.toNat % 16)]

/-- Bytes in upper-case digits. -/
def encode (bytes : List UInt8) : String :=
  String.ofList (chars bytes)

/-- Bytes in lower-case digits. -/
def encodeLower (bytes : List UInt8) : String :=
  String.ofList ((chars bytes).map Char.toLower)

/-- Why a text is not made of whole pairs of digits. -/
inductive Fault
  | oddLength
  | notADigit (byte : UInt8) (position : Nat)
  deriving DecidableEq, Repr

/-- The wording of a fault; the byte is shown as the character of the same code. -/
def Fault.message : Fault → String
  | .oddLength => "Odd number of digits"
  | .notADigit byte position =>
    "Invalid character " ++ Text.quoteChar (Char.ofNat byte.toNat) ++ " at position " ++ toString position

/-- The value of a digit of either case, given as its ASCII code. -/
def value? (b : UInt8) : Option Nat :=
  let n := b.toNat
  if '0'.toNat ≤ n ∧ n ≤ '9'.toNat then some (n - '0'.toNat)
  else if 'A'.toNat ≤ n ∧ n ≤ 'F'.toNat then some (n - 'A'.toNat + 10)
  else if 'a'.toNat ≤ n ∧ n ≤ 'f'.toNat then some (n - 'a'.toNat + 10)
  else none

def valueAt (position : Nat) (b : UInt8) : Except Fault Nat :=
  match value? b with
  | some n => .ok n
  | none => .error (.notADigit b position)

/-- Reads pairs of digits, the first one standing at `position`. -/
def pairs (position : Nat) : List UInt8 → Except Fault (List UInt8)
  | high :: low :: rest => do
    let h ← valueAt position high
    let l ← valueAt (position + 1) low
    let bytes ← pairs (position + 2) rest
    return UInt8.ofNat (16 * h + l) :: bytes
  | _ => .ok []

/-- Reads a text of digit pairs. An odd count is refused before any digit is looked at. -/
def decode (s : String) : Except Fault (List UInt8) :=
  if Text.utf8Length s % 2 = 1 then .error .oddLength else pairs 0 (Text.utf8 s)

end TokenGovernance.Hex
