import TokenGovernance.Context.Basic
import TokenGovernance.Transaction.Operation

/-! # Transactions

Unsigned operations with the parameters of the context they were made in, and the accounts that have
to sign them.
-/

namespace TokenGovernance

/-- An operation with its network, its deadline and its fee. -/
structure Transaction where
  network : Network
  deadline : Deadline
  maxFee : UInt64
  operation : Operation
  deriving DecidableEq

/-- A part of an aggregate: a transaction and the account that has to sign it. -/
structure InnerTransaction where
  signer : PublicAccount
  transaction : Transaction
  deriving DecidableEq

def Context.transaction (c : Context) (o : Operation) : Transaction :=
  ⟨c.network.network, c.parameters.deadline, c.parameters.maxFee, o⟩

def Transaction.signedBy (t : Transaction) (signer : PublicAccount) : InnerTransaction :=
  ⟨signer, t⟩

end TokenGovernance
