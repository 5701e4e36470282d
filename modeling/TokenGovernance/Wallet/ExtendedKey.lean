import TokenGovernance.Wallet.Path
import TokenGovernance.Curve.Secp256k1
import TokenGovernance.Digest.Hmac
import TokenGovernance.Text.Blank

/-! # Trees of keys

Secret keys that carry a chain code, from which the keys below them follow. Only hardened steps are
taken, so no public key is needed on the way.
-/

namespace TokenGovernance.Wallet

/-- A secret number and its chain code. -/
structure ExtendedKey where
  secret : Nat
  chainCode : Octets 32

namespace ExtendedKey

/-- The halves of a digest: a number and a chain code. -/
def split (digest : Octets 64) : Nat × Octets 32 :=
  (bigEndian digest.firstHalf.1, digest.drop 32)

/-- The root of the tree of a seed, unless the seed yields no secret. -/
def root? (seed : List UInt8) : Option ExtendedKey :=
  let (secret, chainCode) := split (Hmac.sha512 (Text.utf8 "Bitcoin seed") seed)
  if Secp256k1.isSecret secret then some ⟨secret, chainCode⟩ else none

/-- The key one hardened step below, unless the step yields no secret. -/
def child? (k : ExtendedKey) (index : Nat) : Option ExtendedKey :=
  let message := 0 :: (toBigEndian 32 k.secret).1 ++ (toBigEndian 4 (indexBound + index)).1
  let (tweak, chainCode) := split (Hmac.sha512 k.chainCode.1 message)
  let secret := (tweak + k.secret) % Secp256k1.order
  if Secp256k1.isSecret tweak && Secp256k1.isSecret secret then some ⟨secret, chainCode⟩ else none

/-- The key at the end of hardened steps. -/
def descend? (k : ExtendedKey) (indexes : List Nat) : Option ExtendedKey :=
  indexes.foldlM child? k

end ExtendedKey
end TokenGovernance.Wallet
