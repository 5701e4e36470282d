import TokenGovernance.Identity.Codec

/-! # Identifiers in digits

Identifiers are words of 64 bits, written as sixteen upper-case digits and read as a numeral with
blanks around it.
-/

namespace TokenGovernance.Hexadecimal

def write (value : UInt64) : String :=
  Hex.encode (toBigEndian 8 value.toNat).1

def read (argument s : String) : Except Refusal UInt64 :=
  match Numeral.parse 16 UInt64.size (Text.trim s) with
  | .ok n => .ok (UInt64.ofNat n)
  | .error fault => .error (.invalidArgument argument (.numeral fault))

end TokenGovernance.Hexadecimal
