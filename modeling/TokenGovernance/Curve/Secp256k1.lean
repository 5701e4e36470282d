import TokenGovernance.Octets

/-! # The curve secp256k1

The curve `y² = x³ + 7` over the integers modulo a prime, and the multiples of its base point. Points
are kept in Jacobian coordinates: `(X, Y, Z)` stands for `(X / Z², Y / Z³)`, and `Z = 0` for the point
at infinity.
-/

namespace TokenGovernance.Secp256k1

/-- The prime that coordinates are counted modulo, `2 ^ 256 - 2 ^ 32 - 977`. -/
def fieldPrime : Nat := 0xFFFFFFFFFFFFFFFFFFFFFFFFFFFFFFFFFFFFFFFFFFFFFFFFFFFFFFFEFFFFFC2F

/-- The number of multiples of the base point. -/
def order : Nat := 0xFFFFFFFFFFFFFFFFFFFFFFFFFFFFFFFEBAAEDCE6AF48A03BBFD25E8CD0364141

/-- A point in Jacobian coordinates. -/
structure Point where
  x : Nat
  y : Nat
  z : Nat

def Point.zero : Point := ⟨1, 1, 0⟩

def base : Point :=
  ⟨0x79BE667EF9DCBBAC55A06295CE870B07029BFCDB2DCE28D959F2815B16F81798,
   0x483ADA7726A3C4655DA4FBFC0E1108A8FD17B448A68554199C47D08FFB10D4B8, 1⟩

def sub (a b : Nat) : Nat :=
  (a + fieldPrime - b % fieldPrime) % fieldPrime

def mul (a b : Nat) : Nat :=
  a * b % fieldPrime

def Point.double (p : Point) : Point :=
  let yy := mul p.y p.y
  let s := mul 4 (mul p.x yy)
  let m := mul 3 (mul p.x p.x)
  let x := sub (mul m m) (2 * s)
  ⟨x, sub (mul m (sub s x)) (mul 8 (mul yy yy)), mul 2 (mul p.y p.z)⟩

def Point.add (p q : Point) : Point :=
  if p.z = 0 then q
  else if q.z = 0 then p
  else
    let pz := mul p.z p.z
    let qz := mul q.z q.z
    let u := mul p.x qz
    let s := mul p.y (mul q.z qz)
    let h := sub (mul q.x pz) u
    let r := sub (mul q.y (mul p.z pz)) s
    if h = 0 then if r = 0 then p.double else .zero
    else
      let hh := mul h h
      let hhh := mul h hh
      let v := mul u hh
      let x := sub (sub (mul r r) hhh) (2 * v)
      ⟨x, sub (mul r (sub v x)) (mul s hhh), mul h (mul p.z q.z)⟩

/-- The sum of `k` copies of a point, `k` being below `2 ^ bits`. -/
def Point.times (p : Point) (k : Nat) : Nat → Point
  | 0 => .zero
  | bits + 1 =>
    let half := (p.times (k / 2) bits).double
    if k % 2 = 1 then half.add p else half

/-- A power modulo the prime, the exponent being below `2 ^ bits`. -/
def pow (a k : Nat) : Nat → Nat
  | 0 => 1
  | bits + 1 =>
    let half := pow a (k / 2) bits
    if k % 2 = 1 then mul (mul half half) a else mul half half

def inverse (a : Nat) : Nat :=
  pow a (fieldPrime - 2) 256

/-- The plain `x` coordinate of a point that is not at infinity. -/
def Point.plainX (p : Point) : Nat :=
  let i := inverse p.z
  mul p.x (mul i i)

/-- Whether a number is a secret: a multiple of the base point other than infinity. -/
def isSecret (k : Nat) : Bool :=
  0 < k && k < order

/-- The `x` coordinate of the public point of a secret. -/
def publicX (k : Nat) : Octets 32 :=
  toBigEndian 32 (base.times k 256).plainX

end TokenGovernance.Secp256k1
