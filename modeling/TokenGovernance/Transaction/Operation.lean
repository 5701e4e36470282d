import TokenGovernance.Governance.Restriction
import TokenGovernance.Token.Namespace

/-! # Operations

What an account can ask of the ledger.
-/

namespace TokenGovernance

/-- An amount of a token. -/
structure TokenAmount where
  id : TokenId
  amount : UInt64
  deriving DecidableEq, Repr

/-- Whether a namespace is a root or stands under another. -/
inductive NamespaceKind
  | root
  | child
  deriving DecidableEq, Repr

namespace NamespaceKind

def all : List NamespaceKind :=
  [.root, .child]

def name : NamespaceKind → String
  | .root => "root"
  | .child => "child"

def ofName? (s : String) : Option NamespaceKind :=
  all.find? (·.name == s)

@[simp] theorem ofName?_name (k : NamespaceKind) : ofName? k.name = some k := by
  cases k <;> rfl

end NamespaceKind

/-- Which way a supply changes. -/
inductive SupplyAction
  | increase
  | decrease
  deriving DecidableEq, Repr

namespace SupplyAction

def all : List SupplyAction :=
  [.increase, .decrease]

def name : SupplyAction → String
  | .increase => "increase"
  | .decrease => "decrease"

def ofName? (s : String) : Option SupplyAction :=
  all.find? (·.name == s)

@[simp] theorem ofName?_name (a : SupplyAction) : ofName? a.name = some a := by
  cases a <;> rfl

end SupplyAction

/-- What may be done with a token. -/
structure TokenFlags where
  supplyMutable : Bool
  transferable : Bool
  restrictable : Bool
  deriving DecidableEq, Repr

/-- A change of the cosignatories of an account and of the numbers of approvals it takes. -/
structure MultisigChange where
  approvalDelta : Int8
  removalDelta : Int8
  additions : List PublicKey
  deletions : List PublicKey
  deriving DecidableEq

structure Registration where
  kind : NamespaceKind
  name : String
  id : NamespaceId
  parent : Option NamespaceId
  duration : UInt64
  deriving DecidableEq

structure Definition where
  nonce : TokenNonce
  id : TokenId
  flags : TokenFlags
  divisibility : UInt8
  duration : UInt64
  deriving DecidableEq

structure GlobalRestriction where
  tokenId : TokenId
  reference : TokenId
  key : UInt64
  previousValue : UInt64
  previousComparison : Comparison
  newValue : UInt64
  newComparison : Comparison
  deriving DecidableEq

structure AddressRestriction where
  tokenId : TokenId
  key : UInt64
  target : Address
  previousValue : UInt64
  newValue : UInt64
  deriving DecidableEq

inductive Operation
  | transfer (recipient : Address) (amounts : List TokenAmount) (message : Option String)
  | multisig (change : MultisigChange)
  | registration (r : Registration)
  | definition (d : Definition)
  | supply (tokenId : TokenId) (action : SupplyAction) (delta : UInt64)
  | accountRestriction (mode : ListMode) (additions deletions : List TokenId)
  | globalRestriction (r : GlobalRestriction)
  | addressRestriction (r : AddressRestriction)
  deriving DecidableEq

namespace Operation

def kind : Operation → String
  | .transfer .. => "transfer"
  | .multisig _ => "multisig_account_modification"
  | .registration _ => "namespace_registration"
  | .definition _ => "token_definition"
  | .supply .. => "token_supply_change"
  | .accountRestriction .. => "account_token_restriction"
  | .globalRestriction _ => "token_global_restriction"
  | .addressRestriction _ => "token_address_restriction"

/-- The value of a flag that was never set. -/
def unset : UInt64 :=
  0xFFFFFFFFFFFFFFFF

/-- Registers a name under the namespace of a path, or as a root. -/
def register (duration : UInt64) (name : String) (parent : Option String) : Operation :=
  let parent := parent.map NamespaceId.ofPath
  .registration ⟨if parent.isSome then .child else .root, name, .ofName name parent, parent, duration⟩

def define (token : TokenIdentifier) (flags : TokenFlags) (divisibility : UInt8) (duration : UInt64) :
    Operation :=
  .definition ⟨token.nonce, token.id, flags, divisibility, duration⟩

/-- Sets the first rule of a token. -/
def restrictToken (tokenId : TokenId) (key : String) (comparison : Comparison) (value : UInt64) : Operation :=
  .globalRestriction ⟨tokenId, ⟨0⟩, restrictionKey key, 0, .none, value, comparison⟩

/-- Sets the flag of an account, which was unset or held a value. -/
def restrictAddress (tokenId : TokenId) (key : String) (target : Address) (previous : Option UInt64)
    (value : UInt64) : Operation :=
  .addressRestriction ⟨tokenId, restrictionKey key, target, previous.getD unset, value⟩

end Operation
end TokenGovernance
