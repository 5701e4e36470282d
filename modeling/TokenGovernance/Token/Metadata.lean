import TokenGovernance.Token.Identifier

/-! # Metadata

Texts attached to tokens and accounts under a key, and where a token comes from.
-/

namespace TokenGovernance

/-- Where a token comes from, such as the name of its issuer. -/
structure TokenSource where
  text : String
  given : Text.trim text ≠ ""
  deriving DecidableEq

/-- Reads a source, which has to hold more than blanks. -/
def TokenSource.ofText (s : String) : Except Refusal TokenSource :=
  if h : Text.trim s ≠ "" then .ok ⟨s, h⟩
  else .error (.invalidArgument "source" .empty)

structure TokenMetadata where
  tokenId : TokenId
  source : Address
  key : UInt64
  value : String
  deriving DecidableEq

/-- The text of a name attached to a token. -/
def TokenMetadata.ofName (tokenId : TokenId) (source : Address) (name value : String) : TokenMetadata :=
  ⟨tokenId, source, restrictionKey name, value⟩

structure AccountMetadata where
  address : Address
  source : Address
  key : UInt64
  value : String
  deriving DecidableEq

/-- The text of a name attached to an account. -/
def AccountMetadata.ofName (address source : Address) (name value : String) : AccountMetadata :=
  ⟨address, source, restrictionKey name, value⟩

instance : Wire TokenSource where
  toJson s := .string s.text
  decoder := spelled TokenSource.ofText

instance : Wire TokenMetadata where
  toJson m := .object [("key", toJson m.key), ("source", toJson m.source), ("token_id", toJson m.tokenId),
    ("value", toJson m.value)]
  decoder :=
    (TokenMetadata.mk <$> Json.Record.field "token_id" Wire.decoder
      <*> Json.Record.field "source" Wire.decoder
      <*> Json.Record.field "key" Wire.decoder
      <*> Json.Record.field "value" Wire.decoder).decoder "struct TokenMetadata"

instance : Wire AccountMetadata where
  toJson m := .object [("address", toJson m.address), ("key", toJson m.key), ("source", toJson m.source),
    ("value", toJson m.value)]
  decoder :=
    (AccountMetadata.mk <$> Json.Record.field "address" Wire.decoder
      <*> Json.Record.field "source" Wire.decoder
      <*> Json.Record.field "key" Wire.decoder
      <*> Json.Record.field "value" Wire.decoder).decoder "struct AccountMetadata"

end TokenGovernance
