import TokenGovernance.Transaction.Basic

/-! # Transactions as JSON

An operation is an object with its kind under the tag `type` and its parts beside it.
-/

namespace TokenGovernance

open Json (Record Case)

instance : Wire TokenAmount where
  toJson a := .object [("amount", toJson a.amount), ("id", toJson a.id)]
  decoder :=
    (TokenAmount.mk <$> Record.field "id" Wire.decoder
      <*> Record.field "amount" Wire.decoder).decoder "struct TokenAmount"

instance : Wire NamespaceKind where
  toJson k := .string k.name
  decoder := .variant (NamespaceKind.all.map NamespaceKind.name) NamespaceKind.ofName?

instance : Wire SupplyAction where
  toJson a := .string a.name
  decoder := .variant (SupplyAction.all.map SupplyAction.name) SupplyAction.ofName?

instance : Wire TokenFlags where
  toJson f := .object [("restrictable", toJson f.restrictable), ("supply_mutable", toJson f.supplyMutable),
    ("transferable", toJson f.transferable)]
  decoder :=
    (TokenFlags.mk <$> Record.field "supply_mutable" Wire.decoder
      <*> Record.field "transferable" Wire.decoder
      <*> Record.field "restrictable" Wire.decoder).decoder "struct TokenFlags"

namespace Operation

/-- The parts of an operation and its kind, in the order of their names. -/
def members : Operation → List (String × Json)
  | .transfer recipient amounts message =>
    [("message", toJson message), ("mosaics", toJson amounts), ("recipient", toJson recipient),
      ("type", .string "transfer")]
  | .multisig c =>
    [("additions", toJson c.additions), ("deletions", toJson c.deletions),
      ("min_approval_delta", toJson c.approvalDelta), ("min_removal_delta", toJson c.removalDelta),
      ("type", .string "multisig_account_modification")]
  | .registration r =>
    [("duration", toJson r.duration), ("id", toJson r.id), ("name", toJson r.name),
      ("parent_id", toJson r.parent), ("registration_type", toJson r.kind),
      ("type", .string "namespace_registration")]
  | .definition d =>
    [("divisibility", toJson d.divisibility), ("duration", toJson d.duration), ("flags", toJson d.flags),
      ("id", toJson d.id), ("nonce", toJson d.nonce), ("type", .string "token_definition")]
  | .supply tokenId action delta =>
    [("action", toJson action), ("delta", toJson delta), ("token_id", toJson tokenId),
      ("type", .string "token_supply_change")]
  | .accountRestriction mode additions deletions =>
    [("additions", toJson additions), ("deletions", toJson deletions), ("flags", toJson mode),
      ("type", .string "account_token_restriction")]
  | .globalRestriction r =>
    [("new_type", toJson r.newComparison), ("new_value", toJson r.newValue),
      ("previous_type", toJson r.previousComparison), ("previous_value", toJson r.previousValue),
      ("reference_token_id", toJson r.reference), ("restriction_key", toJson r.key),
      ("token_id", toJson r.tokenId), ("type", .string "token_global_restriction")]
  | .addressRestriction r =>
    [("new_value", toJson r.newValue), ("previous_value", toJson r.previousValue),
      ("restriction_key", toJson r.key), ("target_address", toJson r.target),
      ("token_id", toJson r.tokenId), ("type", .string "token_address_restriction")]

def transferRecord : Record Operation :=
  transfer <$> Record.field "recipient" Wire.decoder
    <*> Record.field "mosaics" Wire.decoder
    <*> Record.nullable "message" Wire.decoder

def multisigRecord : Record Operation :=
  multisig <$> (MultisigChange.mk <$> Record.field "min_approval_delta" Wire.decoder
    <*> Record.field "min_removal_delta" Wire.decoder
    <*> Record.field "additions" Wire.decoder
    <*> Record.field "deletions" Wire.decoder)

def registrationRecord : Record Operation :=
  registration <$> (Registration.mk <$> Record.field "registration_type" Wire.decoder
    <*> Record.field "name" Wire.decoder
    <*> Record.field "id" Wire.decoder
    <*> Record.nullable "parent_id" Wire.decoder
    <*> Record.field "duration" Wire.decoder)

def definitionRecord : Record Operation :=
  definition <$> (Definition.mk <$> Record.field "nonce" Wire.decoder
    <*> Record.field "id" Wire.decoder
    <*> Record.field "flags" Wire.decoder
    <*> Record.field "divisibility" Wire.decoder
    <*> Record.field "duration" Wire.decoder)

def supplyRecord : Record Operation :=
  supply <$> Record.field "token_id" Wire.decoder
    <*> Record.field "action" Wire.decoder
    <*> Record.field "delta" Wire.decoder

/-- The parts of a change of the list of an account. -/
def accountRestrictionRecord : Record Operation :=
  accountRestriction <$> Record.field "flags" Wire.decoder
    <*> Record.field "additions" Wire.decoder
    <*> Record.field "deletions" Wire.decoder

def globalRestrictionRecord : Record Operation :=
  globalRestriction <$> (GlobalRestriction.mk <$> Record.field "token_id" Wire.decoder
    <*> Record.field "reference_token_id" Wire.decoder
    <*> Record.field "restriction_key" Wire.decoder
    <*> Record.field "previous_value" Wire.decoder
    <*> Record.field "previous_type" Wire.decoder
    <*> Record.field "new_value" Wire.decoder
    <*> Record.field "new_type" Wire.decoder)

def addressRestrictionRecord : Record Operation :=
  addressRestriction <$> (AddressRestriction.mk <$> Record.field "token_id" Wire.decoder
    <*> Record.field "restriction_key" Wire.decoder
    <*> Record.field "target_address" Wire.decoder
    <*> Record.field "previous_value" Wire.decoder
    <*> Record.field "new_value" Wire.decoder)

def cases : List (Case Operation) :=
  [("transfer", "Transfer", transferRecord),
    ("multisig_account_modification", "MultisigAccountModification", multisigRecord),
    ("namespace_registration", "NamespaceRegistration", registrationRecord),
    ("token_definition", "TokenDefinition", definitionRecord),
    ("token_supply_change", "TokenSupplyChange", supplyRecord),
    ("account_token_restriction", "AccountTokenRestriction", accountRestrictionRecord),
    ("token_global_restriction", "TokenGlobalRestriction", globalRestrictionRecord),
    ("token_address_restriction", "TokenAddressRestriction", addressRestrictionRecord)].map
      fun (tag, name, record) => ⟨tag, record.decoder ("struct variant TransactionBody::" ++ name)⟩

end Operation

instance : Wire Operation where
  toJson o := .object o.members
  decoder := Case.decoder "internally tagged enum TransactionBody" "type" Operation.cases

instance : Wire Transaction where
  toJson t := .object [("body", toJson t.operation), ("deadline", toJson t.deadline),
    ("max_fee", toJson t.maxFee), ("network_type", toJson t.network)]
  decoder :=
    (Transaction.mk <$> Record.field "network_type" Wire.decoder
      <*> Record.field "deadline" Wire.decoder
      <*> Record.field "max_fee" Wire.decoder
      <*> Record.field "body" Wire.decoder).decoder "struct Transaction"

instance : Wire InnerTransaction where
  toJson t := .object [("signer", toJson t.signer), ("transaction", toJson t.transaction)]
  decoder :=
    (InnerTransaction.mk <$> Record.field "signer" Wire.decoder
      <*> Record.field "transaction" Wire.decoder).decoder "struct InnerTransaction"

end TokenGovernance
