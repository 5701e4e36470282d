import TokenGovernance.Command.Arguments
import TokenGovernance.Command.Threshold
import TokenGovernance.Ledger.Reader

/-! # Changes of operators

Adding an operator to a token account and removing one. Only an operator may do so, and the threshold
follows the new number of operators.
-/

namespace TokenGovernance.OperatorChange

def options : List CommandOption :=
  [.needed "identifier" "Nonce seed the token was created with",
    .needed "operator" "Public key of the operator"]

structure Arguments where
  identifier : TokenIdentifier
  operator : Operator
  deriving DecidableEq

def Arguments.read (i : Invocation) : Except Refusal Arguments := do
  let identifier ← i.identifier
  let operator ← i.operator
  return { identifier, operator }

/-- A fault of the ledger makes the command fail. -/
def ask {α : Type} (answer : Except LedgerFault α) : Except Refusal α :=
  answer.mapError fun fault => .failed (.ledger fault)

/-- The multisig record of the governed account, which only its cosignatories may see. -/
def governance (i : Invocation) (ledger : LedgerReader) : Except Refusal Multisig := do
  match ← ask (ledger.multisig? i.target.address) with
  | none =>
    if ← ask (ledger.accountExists i.target.address) then
      throw (.failed (.notTokenAccount i.target.address))
    else
      throw (.failed (.unknownAccount i.target.address))
  | some m =>
    if m.lists i.context.actor.key then return m
    else throw (.forbidden i.context.actor.address i.target.address)

/-- The announcement of a change, the change of cosignatories with the threshold of their new number,
and the role of the operator. -/
def transactions (i : Invocation) (a : Arguments) (action : String) (m : Multisig) (count : Nat)
    (additions deletions : List PublicKey) (role : InnerTransaction) :
    Except Refusal (List InnerTransaction) := do
  let approval ← Threshold.delta m.minApproval count
  let removal ← Threshold.delta m.minRemoval count
  return [i.proofOfIntent action a.identifier, i.byTarget (.multisig ⟨approval, removal, additions, deletions⟩),
    role]

/-! ## Adding -/

/-- The action that is announced when an operator is added. -/
def additionAction : String := "add-operator"

/-- The record of the governed account, if the operator may be added. -/
def synchronizeAddition (i : Invocation) (ledger : LedgerReader) : Except Refusal Multisig := do
  let m ← governance i ledger
  let a ← Arguments.read i
  if m.lists a.operator.key then throw (.invalidArgument "operator" (.alreadyOperator a.operator.key))
  if Limits.maximumOperators < m.cosignatories.length + 1 then throw (.invalidArgument "operator" .operatorsFull)
  return m

/-- The transactions that add the operator, which signs its own role. -/
def assembleAddition (i : Invocation) (m : Multisig) : Except Refusal (List InnerTransaction) := do
  let a ← Arguments.read i
  transactions i a additionAction m (m.cosignatories.length + 1) [a.operator.key] []
    (i.byOperator a.operator (i.assignment a.identifier a.operator none .operator))

/-! ## Removing -/

/-- The action that is announced when an operator is removed. -/
def removalAction : String := "remove-operator"

/-- The record of the governed account, if the operator may be removed. -/
def synchronizeRemoval (i : Invocation) (ledger : LedgerReader) : Except Refusal Multisig := do
  let m ← governance i ledger
  let a ← Arguments.read i
  if !m.lists a.operator.key then throw (.invalidArgument "operator" (.notOperator a.operator.key))
  if m.cosignatories.length - 1 < Limits.minimumOperators then
    throw (.tooFewOperators (m.cosignatories.length - 1))
  return m

/-- The transactions that remove the operator and make it a guest. -/
def assembleRemoval (i : Invocation) (m : Multisig) : Except Refusal (List InnerTransaction) := do
  let a ← Arguments.read i
  transactions i a removalAction m (m.cosignatories.length - 1) [] [a.operator.key]
    (i.byTarget (i.assignment a.identifier a.operator (some .operator) .guest))

end TokenGovernance.OperatorChange
