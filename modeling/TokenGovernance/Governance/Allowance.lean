import TokenGovernance.Governance.Restriction
import TokenGovernance.Governance.Role

/-! # Allowances

Whether an account may hold a token, and if not, why.
-/

namespace TokenGovernance

/-- Why an account may not hold a token: its own list keeps the token out, it has no flag under the
key of the rule, or its flag fails the rule. -/
inductive Denial
  | notListed
  | roleUnset
  | roleBelowRule
  deriving DecidableEq, Repr

namespace Denial

def all : List Denial :=
  [.notListed, .roleUnset, .roleBelowRule]

def name : Denial → String
  | .notListed => "not_listed"
  | .roleUnset => "role_unset"
  | .roleBelowRule => "role_below_rule"

def ofName? (s : String) : Option Denial :=
  all.find? (·.name == s)

@[simp] theorem ofName?_name (d : Denial) : ofName? d.name = some d := by
  cases d <;> rfl

end Denial

/-- The verdict on an account and a token. -/
structure Allowance where
  tokenId : TokenId
  address : Address
  role : Option Role
  allowed : Bool
  denial : Option Denial
  deriving DecidableEq

/-- The denial of an account with the list and the flag it has. Its list comes first. -/
def TokenRestriction.denial (rule : TokenRestriction) (account : Option AccountRestriction)
    (flag : Option UInt64) : Option Denial :=
  if account.any fun list => !list.allows rule.tokenId then some .notListed
  else if flag.isNone ∧ rule.comparison ≠ .none then some .roleUnset
  else if !rule.allows flag then some .roleBelowRule
  else none

/-- The verdict on an account with the list and the flag it has. -/
def TokenRestriction.evaluate (rule : TokenRestriction) (account : Option AccountRestriction)
    (address : Address) (flag : Option UInt64) : Allowance :=
  let denial := rule.denial account flag
  ⟨rule.tokenId, address, flag.bind Role.ofValue?, denial.isNone, denial⟩

instance : Wire Denial where
  toJson d := .string d.name
  decoder := .variant (Denial.all.map Denial.name) Denial.ofName?

instance : Wire Allowance where
  toJson a := .object [("address", toJson a.address), ("allowed", toJson a.allowed),
    ("denial", toJson a.denial), ("role", toJson a.role), ("token_id", toJson a.tokenId)]
  decoder :=
    (Allowance.mk <$> Json.Record.field "token_id" Wire.decoder
      <*> Json.Record.field "address" Wire.decoder
      <*> Json.Record.nullable "role" Wire.decoder
      <*> Json.Record.field "allowed" Wire.decoder
      <*> Json.Record.nullable "denial" Wire.decoder).decoder "struct AllowanceResult"

end TokenGovernance
