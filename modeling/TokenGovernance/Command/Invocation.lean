import TokenGovernance.Governance.Notification
import TokenGovernance.Governance.Operator
import TokenGovernance.Transaction.Basic

/-! # Invocations

A command that is about to run: its context, and the account that it governs.
-/

namespace TokenGovernance

/-- The context and the governed account of a command. -/
structure Invocation where
  context : Context
  target : PublicAccount

namespace Invocation

/-- The transaction of an operation for the governed account to sign. -/
def byTarget (i : Invocation) (o : Operation) : InnerTransaction :=
  (i.context.transaction o).signedBy i.target

/-- The account of an operator on the network of the context. -/
def accountOf (i : Invocation) (o : Operator) : PublicAccount :=
  o.account i.context.network.network

/-- The transaction of an operation for an operator to sign. -/
def byOperator (i : Invocation) (operator : Operator) (o : Operation) : InnerTransaction :=
  (i.context.transaction o).signedBy (i.accountOf operator)

def notification (i : Invocation) (action : String) (token : TokenIdentifier) : Notification :=
  ⟨i.context.revision, action, token.id⟩

/-- A transfer of nothing from the governed account to itself, which carries the message of an action. -/
def proofOfIntent (i : Invocation) (action : String) (token : TokenIdentifier) : InnerTransaction :=
  i.byTarget (.transfer i.target.address [] (some (i.notification action token).message))

/-- Gives an operator a role, the flag of which was unset or that of another role. -/
def assignment (i : Invocation) (token : TokenIdentifier) (operator : Operator) (previous : Option Role)
    (role : Role) : Operation :=
  .restrictAddress token.id Limits.roleKey (i.accountOf operator).address (previous.map Role.value) role.value

end Invocation
end TokenGovernance
