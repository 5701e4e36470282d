import TokenGovernance.Token.Identifier

/-! # Restrictions

The rule that a token sets for the accounts that hold it, and the list of tokens that an account
accepts or refuses.
-/

namespace TokenGovernance

/-- The relation that a rule demands between the value of an account and its own; `none` demands
nothing. -/
inductive Comparison
  | none
  | eq
  | ne
  | lt
  | le
  | gt
  | ge
  deriving DecidableEq, Repr

namespace Comparison

def all : List Comparison :=
  [.none, .eq, .ne, .lt, .le, .gt, .ge]

def name : Comparison → String
  | .none => "NONE"
  | .eq => "EQ"
  | .ne => "NE"
  | .lt => "LT"
  | .le => "LE"
  | .gt => "GT"
  | .ge => "GE"

def ofName? (s : String) : Option Comparison :=
  all.find? (·.name == s)

/-- The code of a comparison on the ledger. -/
def code : Comparison → UInt8
  | .none => 0
  | .eq => 1
  | .ne => 2
  | .lt => 3
  | .le => 4
  | .gt => 5
  | .ge => 6

/-- Whether the value of an account stands in the relation to the value that is required. -/
def holds (c : Comparison) (actual required : UInt64) : Bool :=
  match c with
  | .none => true
  | .eq => actual == required
  | .ne => actual != required
  | .lt => actual < required
  | .le => actual ≤ required
  | .gt => required < actual
  | .ge => required ≤ actual

@[simp] theorem ofName?_name (c : Comparison) : ofName? c.name = some c := by
  cases c <;> rfl

end Comparison

/-- The rule of a token under a key. -/
structure TokenRestriction where
  tokenId : TokenId
  key : UInt64
  comparison : Comparison
  value : UInt64
  deriving DecidableEq, Repr

/-- Whether an account passes a rule with the flag it holds. Without a flag it passes only where
nothing is demanded. -/
def TokenRestriction.allows (rule : TokenRestriction) (flag : Option UInt64) : Bool :=
  match rule.comparison, flag with
  | .none, _ => true
  | _, none => false
  | comparison, some actual => comparison.holds actual rule.value

/-- Whether a list of tokens names those an account accepts or those it refuses. -/
inductive ListMode
  | allow
  | block
  deriving DecidableEq, Repr

namespace ListMode

def all : List ListMode :=
  [.allow, .block]

def name : ListMode → String
  | .allow => "AllowMosaic"
  | .block => "BlockMosaic"

def ofName? (s : String) : Option ListMode :=
  all.find? (·.name == s)

/-- The flags of a mode on the ledger. -/
def flags : ListMode → UInt16
  | .allow => 0x0002
  | .block => 0x8002

@[simp] theorem ofName?_name (m : ListMode) : ofName? m.name = some m := by
  cases m <;> rfl

end ListMode

/-- The list of tokens of an account. -/
structure AccountRestriction where
  address : Address
  mode : ListMode
  tokens : List TokenId
  deriving DecidableEq

/-- Whether the list of an account lets a token in. -/
def AccountRestriction.allows (list : AccountRestriction) (token : TokenId) : Bool :=
  match list.mode with
  | .allow => list.tokens.contains token
  | .block => !list.tokens.contains token

instance : Wire Comparison where
  toJson c := .string c.name
  decoder := .variant (Comparison.all.map Comparison.name) Comparison.ofName?

instance : Wire TokenRestriction where
  toJson r := .object [("key", toJson r.key), ("restriction_type", toJson r.comparison),
    ("token_id", toJson r.tokenId), ("value", toJson r.value)]
  decoder :=
    (TokenRestriction.mk <$> Json.Record.field "token_id" Wire.decoder
      <*> Json.Record.field "key" Wire.decoder
      <*> Json.Record.field "restriction_type" Wire.decoder
      <*> Json.Record.field "value" Wire.decoder).decoder "struct TokenRestriction"

instance : Wire ListMode where
  toJson m := .string m.name
  decoder := .variant (ListMode.all.map ListMode.name) ListMode.ofName?

instance : Wire AccountRestriction where
  toJson r := .object [("address", toJson r.address), ("flags", toJson r.mode), ("values", toJson r.tokens)]
  decoder :=
    (AccountRestriction.mk <$> Json.Record.field "address" Wire.decoder
      <*> Json.Record.field "flags" Wire.decoder
      <*> Json.Record.field "values" Wire.decoder).decoder "struct AccountRestriction"

end TokenGovernance
