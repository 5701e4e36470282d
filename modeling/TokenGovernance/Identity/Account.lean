import TokenGovernance.Identity.Network
import TokenGovernance.Digest.Sha256
import TokenGovernance.Text.Hex

/-! # Accounts

Public keys, and the address that a key has on a network. An address is the byte of its network, 20
bytes of the digest of the key, and 3 bytes of the digest of all these.
-/

namespace TokenGovernance

structure PublicKey where
  octets : Octets 32
  deriving DecidableEq

/-- The key in upper-case digits. -/
def PublicKey.toHex (k : PublicKey) : String :=
  Hex.encode k.octets.1

namespace Address

/-- The three bytes that close an address. -/
def checksum (body : List UInt8) : List UInt8 :=
  (Sha256.hash body).1.take 3

/-- Whether bytes are an address: a known network in front, the right checksum at the end. -/
def isValid (raw : Octets 24) : Bool :=
  ((raw.1.head?).bind Network.ofByte?).isSome && raw.1.drop 21 == checksum (raw.1.take 21)

end Address

/-- An address, which closes with its checksum. -/
structure Address where
  octets : Octets 24
  valid : Address.isValid octets = true
  deriving DecidableEq

namespace Address

/-- The network byte and the digest of a key. -/
def body (key : PublicKey) (network : Network) : List UInt8 :=
  network.byte :: (Sha256.hash key.octets.1).1.take 20

theorem length_body (key : PublicKey) (network : Network) : (body key network).length = 21 := by
  simp [body, (Sha256.hash key.octets.1).2]

theorem length_checksum (body : List UInt8) : (checksum body).length = 3 := by
  simp [checksum, (Sha256.hash body).2]

def ofKey (key : PublicKey) (network : Network) : Address :=
  ⟨⟨body key network ++ checksum (body key network), by simp [length_body, length_checksum]⟩, by
    have h := length_body key network
    simp [isValid, h]
    simp [body]⟩

def toHex (a : Address) : String :=
  Hex.encode a.octets.1

/-- The network in the first byte. -/
def network? (a : Address) : Option Network :=
  a.octets.1.head?.bind Network.ofByte?

/-- Addresses in the order of their bytes. -/
instance : LT Address :=
  ⟨fun a b => a.octets.1 < b.octets.1⟩

instance : DecidableLT Address :=
  fun a b => inferInstanceAs (Decidable (a.octets.1 < b.octets.1))

end Address

/-- A key on a network. -/
structure PublicAccount where
  key : PublicKey
  network : Network
  deriving DecidableEq

def PublicAccount.address (a : PublicAccount) : Address :=
  .ofKey a.key a.network

end TokenGovernance
