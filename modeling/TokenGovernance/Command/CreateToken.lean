import TokenGovernance.Command.Arguments
import TokenGovernance.Command.Threshold
import TokenGovernance.Token.Metadata

/-! # Creation of a token

A new token, governed by its operators. The governed account announces it, becomes a multisig account,
registers its name, defines it, issues its supply and restricts it to those who hold a role; then every
operator takes its role.
-/

namespace TokenGovernance.CreateToken

def options : List CommandOption :=
  [.needed "name" "Dot-separated token name, one namespace per segment",
    .needed "source" "Provenance of the token",
    .needed "identifier" "Nonce seed the token identifier is derived from",
    .needed "operators" "Cosignatory public keys, at least two",
    .optional "supply" "Initial supply, default 1"]

structure Arguments where
  name : String
  segments : List String
  source : TokenSource
  identifier : TokenIdentifier
  operators : List Operator
  supply : UInt64
  deriving DecidableEq

/-- Reads the arguments: name, source, identifier, supply and operators in this order, and last the
segments of the name. -/
def Arguments.read (i : Invocation) : Except Refusal Arguments := do
  let name ← i.context.get .string "name" ""
  let source ← TokenSource.ofText (← i.context.get .string "source" "")
  let identifier ← i.identifier
  let supply ← i.context.get .u64 "supply" Limits.defaultSupply
  let operators ← i.operators
  let segments ← TokenName.segments name
  return { name, segments, source, identifier, operators, supply }

def action : String := "create"

/-- Registers segments, each under the path of those in front of it. -/
def registrations (parent : Option String) : List String → List Operation
  | [] => []
  | name :: rest =>
    let path := match parent with
      | none => name
      | some p => p ++ "." ++ name
    .register Limits.namespaceDuration name parent :: registrations (some path) rest

/-- A token of these flags can be issued later, sent and restricted. -/
def flags : TokenFlags :=
  { supplyMutable := true, transferable := true, restrictable := true }

/-- The operations that the governed account signs behind the announcement. -/
def operations (a : Arguments) (approvals : Int8) : List Operation :=
  .multisig ⟨approvals, approvals, a.operators.map (·.key), []⟩ ::
    registrations none a.segments ++
    .define a.identifier flags Limits.tokenDivisibility Limits.tokenDuration ::
    (if 0 < a.supply then [.supply a.identifier.id .increase a.supply] else []) ++
    [.accountRestriction .allow [a.identifier.id] [],
      .restrictToken a.identifier.id Limits.roleKey .ge Role.holder.value]

def assemble (i : Invocation) : Except Refusal (List InnerTransaction) := do
  let a ← Arguments.read i
  let approvals ← Threshold.ofCount a.operators.length
  return i.proofOfIntent action a.identifier ::
    (operations a approvals.toInt8).map i.byTarget ++
    a.operators.map fun o => i.byOperator o (i.assignment a.identifier o none .operator)

end TokenGovernance.CreateToken
