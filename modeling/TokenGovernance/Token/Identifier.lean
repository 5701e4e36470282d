import TokenGovernance.Digest.Word
import TokenGovernance.Token.Hexadecimal
import TokenGovernance.Token.Nonce

/-! # Token identifiers

The identifier of a token follows from its nonce and its owner; its highest bit is clear.
-/

namespace TokenGovernance

structure TokenId where
  value : UInt64
  deriving DecidableEq, Repr

namespace TokenId

def toHex (id : TokenId) : String :=
  Hexadecimal.write id.value

def ofHex (s : String) : Except Refusal TokenId :=
  (Hexadecimal.read "token_id" s).map TokenId.mk

/-- The number of the token of a nonce and an owner. -/
def ofNonce (nonce : TokenNonce) (owner : Address) : TokenId :=
  ⟨digestWord (nonce.octets.1 ++ owner.octets.1) &&& 0x7FFFFFFFFFFFFFFF⟩

end TokenId

/-- A token: its nonce, its owner and its number. -/
structure TokenIdentifier where
  nonce : TokenNonce
  id : TokenId
  owner : Address
  deriving DecidableEq

namespace TokenIdentifier

def ofNonce (nonce : TokenNonce) (owner : Address) : TokenIdentifier :=
  ⟨nonce, .ofNonce nonce owner, owner⟩

def ofSeed (seed : String) (owner : Address) : Except Refusal TokenIdentifier :=
  (TokenNonce.ofSeed seed).map fun nonce => ofNonce nonce owner

end TokenIdentifier

instance : Wire TokenId where
  toJson id := .string id.toHex
  decoder := spelled TokenId.ofHex

instance : Wire TokenIdentifier where
  toJson t := .object [("id", toJson t.id), ("nonce", toJson t.nonce), ("owner", toJson t.owner)]
  decoder :=
    (TokenIdentifier.mk <$> Json.Record.field "nonce" Wire.decoder
      <*> Json.Record.field "id" Wire.decoder
      <*> Json.Record.field "owner" Wire.decoder).decoder "struct TokenIdentifier"

end TokenGovernance
