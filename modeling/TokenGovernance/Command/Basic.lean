import TokenGovernance.Command.CreateToken
import TokenGovernance.Command.OperatorChange

/-! # Commands

The commands of the standard. A command runs in three phases: it checks its arguments, reads the
ledger, and assembles its transactions from what it read.
-/

namespace TokenGovernance

inductive Command
  | createToken
  | addOperator
  | removeOperator
  deriving DecidableEq, Repr

namespace Command

def all : List Command :=
  [.createToken, .addOperator, .removeOperator]

def name : Command → String
  | .createToken => "CreateToken"
  | .addOperator => "AddOperator"
  | .removeOperator => "RemoveOperator"

def ofName (s : String) : Except Refusal Command :=
  match all.find? (·.name == s) with
  | some c => .ok c
  | none => .error (.invalidCommand s)

def options : Command → List CommandOption
  | .createToken => CreateToken.options
  | .addOperator | .removeOperator => OperatorChange.options

/-- The names of the arguments that must be there. -/
def arguments (c : Command) : List String :=
  (c.options.filter (·.required)).map (·.name)

/-- What a command reads from the ledger. -/
def State : Command → Type
  | .createToken => Unit
  | .addOperator | .removeOperator => Multisig

/-- Refuses an invocation that lacks an argument, and names the first. -/
def requireArguments (c : Command) (i : Invocation) : Except Refusal Unit :=
  match c.arguments.find? fun name => !i.context.has name with
  | some name => .error (.missingArgument name)
  | none => .ok ()

def validate (c : Command) (i : Invocation) : Except Refusal Unit := do
  c.requireArguments i
  match c with
  | .createToken => let _ ← CreateToken.Arguments.read i
  | .addOperator | .removeOperator => let _ ← OperatorChange.Arguments.read i

/-- Reads the ledger. A token account that is created has nothing to read. -/
def synchronize : (c : Command) → Invocation → LedgerReader → Except Refusal c.State
  | .createToken, _, _ => .ok ()
  | .addOperator, i, ledger => OperatorChange.synchronizeAddition i ledger
  | .removeOperator, i, ledger => OperatorChange.synchronizeRemoval i ledger

def assemble : (c : Command) → Invocation → c.State → Except Refusal (List InnerTransaction)
  | .createToken, i, _ => CreateToken.assemble i
  | .addOperator, i, m => OperatorChange.assembleAddition i m
  | .removeOperator, i, m => OperatorChange.assembleRemoval i m

def execute (c : Command) (i : Invocation) (ledger : LedgerReader) : Except Refusal (List InnerTransaction) := do
  c.validate i
  let state ← c.synchronize i ledger
  c.assemble i state

end Command
end TokenGovernance
