import TokenGovernance.Digest.Sha256
import TokenGovernance.Text.Blank

/-! # Digests cut to a word

The number that the first eight bytes of a digest spell, least significant byte first.
-/

namespace TokenGovernance

def digestWord (message : List UInt8) : UInt64 :=
  UInt64.ofNat (littleEndian ((Sha256.hash message).1.take 8))

/-- The key that values of a name are stored under. -/
def restrictionKey (name : String) : UInt64 :=
  digestWord (Text.utf8 name)

end TokenGovernance
