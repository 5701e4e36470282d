/-! # Octets

Byte strings of a length that the type states, and the two orders in which bytes spell a number.
-/

namespace TokenGovernance

/-- Exactly `n` bytes. -/
abbrev Octets (n : Nat) :=
  { bytes : List UInt8 // bytes.length = n }

namespace Octets

/-- Bytes of exactly the wanted length, nothing for any other. -/
def ofList? (n : Nat) (bytes : List UInt8) : Option (Octets n) :=
  if h : bytes.length = n then some ⟨bytes, h⟩ else none

/-- The same byte `n` times. -/
def fill (n : Nat) (b : UInt8) : Octets n :=
  ⟨List.replicate n b, List.length_replicate⟩

def take {m : Nat} (o : Octets m) (n : Nat) (h : n ≤ m) : Octets n :=
  ⟨o.1.take n, by rw [List.length_take, o.2]; omega⟩

/-- The first 32 of 64 bytes. -/
def firstHalf (o : Octets 64) : Octets 32 :=
  o.take 32 (by omega)

/-- All but the first `n` bytes. -/
def drop {m : Nat} (o : Octets m) (n : Nat) : Octets (m - n) :=
  ⟨o.1.drop n, by rw [List.length_drop, o.2]⟩

end Octets

/-- The number that bytes spell, least significant byte first. -/
def littleEndian : List UInt8 → Nat
  | [] => 0
  | b :: rest => b.toNat + 256 * littleEndian rest

/-- The number that bytes spell, most significant byte first. -/
def bigEndian (bytes : List UInt8) : Nat :=
  littleEndian bytes.reverse

/-- The lowest `n` bytes of a number, least significant first. -/
def toLittleEndian : Nat → Nat → List UInt8
  | 0, _ => []
  | n + 1, value => UInt8.ofNat (value % 256) :: toLittleEndian n (value / 256)

@[simp] theorem length_toLittleEndian (n value : Nat) : (toLittleEndian n value).length = n := by
  induction n generalizing value with
  | zero => rfl
  | succ n ih => simp [toLittleEndian, ih]

/-- The lowest `n` bytes of a number, most significant first. -/
def toBigEndian (n value : Nat) : Octets n :=
  ⟨(toLittleEndian n value).reverse, by simp⟩

end TokenGovernance
