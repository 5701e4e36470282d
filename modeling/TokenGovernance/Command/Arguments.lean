import TokenGovernance.Command.Invocation
import TokenGovernance.Json.Printer

/-! # Arguments of commands

How the arguments that commands share are read and checked.
-/

namespace TokenGovernance

structure CommandOption where
  name : String
  required : Bool
  description : String
  deriving DecidableEq, Repr

def CommandOption.needed (name description : String) : CommandOption :=
  ⟨name, true, description⟩

def CommandOption.optional (name description : String) : CommandOption :=
  ⟨name, false, description⟩

def CommandOption.toJson (o : CommandOption) : Json :=
  .object [("description", .string o.description), ("name", .string o.name), ("required", .bool o.required)]

namespace Invocation

/-- The seed of the token, a string or the text of a number. -/
def seed (i : Invocation) : Except Refusal String := do
  match ← i.context.get .any "identifier" .null with
  | .string s => return s
  | .number n => return String.ofList n.chars
  | other => throw (.invalidArgument "identifier" (.seed other.compact))

/-- The token of the seed, owned by the governed account. -/
def identifier (i : Invocation) : Except Refusal TokenIdentifier := do
  TokenIdentifier.ofSeed (← i.seed) i.target.address

/-- Refuses an operator that has another role or is the governed account itself. -/
def checkOperator (i : Invocation) (argument : String) (o : Operator) : Except Refusal Unit :=
  if o.role ≠ .operator then .error (.invalidArgument argument .role)
  else if o.key = i.target.key then .error (.invalidArgument argument .selfCosigning)
  else .ok ()

/-- Checks operators one by one; none may repeat a key of `earlier` or of one in front of it. -/
def checkOperators (i : Invocation) (earlier : List PublicKey) : List Operator → Except Refusal Unit
  | [] => .ok ()
  | o :: rest => do
    i.checkOperator "operators" o
    if o.key ∈ earlier then throw (.invalidArgument "operators" (.duplicateOperator o.key))
    i.checkOperators (o.key :: earlier) rest

/-- The operators of a new token: enough, not too many, and no two with one key. -/
def operators (i : Invocation) : Except Refusal (List Operator) := do
  let operators : List Operator ← i.context.get Wire.decoder "operators" []
  i.checkOperators [] operators
  if operators.length < Limits.minimumOperators then throw (.tooFewOperators operators.length)
  if Limits.maximumOperators < operators.length then
    throw (.invalidArgument "operators" (.operatorCount operators.length))
  return operators

/-- The operator to add or remove. -/
def operator (i : Invocation) : Except Refusal Operator := do
  match ← i.context.get Wire.decoder "operator" none with
  | none => throw (.missingArgument "operator")
  | some o =>
    i.checkOperator "operator" o
    return o

end Invocation
end TokenGovernance
