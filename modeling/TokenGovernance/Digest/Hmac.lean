import TokenGovernance.Digest.Sha256
import TokenGovernance.Digest.Sha512

/-! # Keyed digests

HMAC over either hash, and the key stretching that repeats it.
-/

namespace TokenGovernance.Hmac

/-- A key as one block: a longer key is hashed first, a shorter one is filled up with zeros. -/
def keyBlock (hash : List UInt8 → List UInt8) (block : Nat) (key : List UInt8) : List UInt8 :=
  let short := if key.length ≤ block then key else hash key
  short ++ List.replicate (block - short.length) 0

/-- The outer hash over the inner hash of the message, each behind the key block in its own disguise. -/
def digest {n : Nat} (hash : List UInt8 → Octets n) (keyBlock message : List UInt8) : Octets n :=
  hash (keyBlock.map (· ^^^ 0x5c) ++ (hash (keyBlock.map (· ^^^ 0x36) ++ message)).1)

def sha256 (key message : List UInt8) : Octets 32 :=
  digest Sha256.hash (keyBlock (fun m => (Sha256.hash m).1) 64 key) message

def sha512 (key message : List UInt8) : Octets 64 :=
  digest Sha512.hash (keyBlock (fun m => (Sha512.hash m).1) 128 key) message

/-- Bytes of equal count, combined one by one with exclusive or. -/
def xor {n : Nat} (x y : Octets n) : Octets n :=
  ⟨List.zipWith (· ^^^ ·) x.1 y.1, by rw [List.length_zipWith, x.2, y.2, Nat.min_self]⟩

/-- The first 64 bytes of PBKDF2 with HMAC-SHA512: `rounds` links of a chain of digests that starts
with the salt, all combined with exclusive or. -/
def stretch (password salt : List UInt8) (rounds : Nat) : Octets 64 :=
  let key := keyBlock (fun m => (Sha512.hash m).1) 128 password
  let first := digest Sha512.hash key (salt ++ [0, 0, 0, 1])
  ((List.range (rounds - 1)).foldl (fun (last, sum) _ =>
    let next := digest Sha512.hash key last.1
    (next, xor sum next)) (first, first)).2

end TokenGovernance.Hmac
