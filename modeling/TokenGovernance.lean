import TokenGovernance.Command.Arguments
import TokenGovernance.Command.Basic
import TokenGovernance.Command.CreateToken
import TokenGovernance.Command.Invocation
import TokenGovernance.Command.OperatorChange
import TokenGovernance.Command.Threshold
import TokenGovernance.CommandLine.LogFormat
import TokenGovernance.CommandLine.Options
import TokenGovernance.CommandLine.Request
import TokenGovernance.CommandLine.Run
import TokenGovernance.Context.Basic
import TokenGovernance.Context.Clock
import TokenGovernance.Context.Parameters
import TokenGovernance.Curve.Secp256k1
import TokenGovernance.Decimal.Binary64
import TokenGovernance.Decimal.Shortest
import TokenGovernance.Digest.Blake3
import TokenGovernance.Digest.Hmac
import TokenGovernance.Digest.Sha256
import TokenGovernance.Digest.Sha512
import TokenGovernance.Digest.Word
import TokenGovernance.Governance.Allowance
import TokenGovernance.Governance.Notification
import TokenGovernance.Governance.Operator
import TokenGovernance.Governance.Restriction
import TokenGovernance.Governance.Role
import TokenGovernance.Identity.Account
import TokenGovernance.Identity.Codec
import TokenGovernance.Identity.Network
import TokenGovernance.Json.Decoder
import TokenGovernance.Json.Fault
import TokenGovernance.Json.Node
import TokenGovernance.Json.Number
import TokenGovernance.Json.Printer
import TokenGovernance.Json.Record
import TokenGovernance.Json.Token
import TokenGovernance.Json.Value
import TokenGovernance.Json.Wire
import TokenGovernance.Keyed
import TokenGovernance.Ledger.Multisig
import TokenGovernance.Ledger.Reader
import TokenGovernance.Ledger.Snapshot
import TokenGovernance.Limits
import TokenGovernance.Main
import TokenGovernance.Octets
import TokenGovernance.Proofs.Command.Admission
import TokenGovernance.Proofs.Command.Arguments
import TokenGovernance.Proofs.Command.Assembly
import TokenGovernance.Proofs.Command.Change
import TokenGovernance.Proofs.Command.Conformity
import TokenGovernance.Proofs.Command.Creation
import TokenGovernance.Proofs.Command.Decision
import TokenGovernance.Proofs.Command.Disclosure
import TokenGovernance.Proofs.Command.Intent
import TokenGovernance.Proofs.Command.Missing
import TokenGovernance.Proofs.Command.Objections
import TokenGovernance.Proofs.Command.Registration
import TokenGovernance.Proofs.Command.Reload
import TokenGovernance.Proofs.Command.Spelling
import TokenGovernance.Proofs.Command.Subject
import TokenGovernance.Proofs.Command.Threshold
import TokenGovernance.Proofs.Command.Verdict
import TokenGovernance.Proofs.CommandLine.Compile
import TokenGovernance.Proofs.CommandLine.Ending
import TokenGovernance.Proofs.CommandLine.Ledger
import TokenGovernance.Proofs.CommandLine.Output
import TokenGovernance.Proofs.CommandLine.Placement
import TokenGovernance.Proofs.CommandLine.Refused
import TokenGovernance.Proofs.CommandLine.Words
import TokenGovernance.Proofs.Context.Register
import TokenGovernance.Proofs.Governance.Allowance
import TokenGovernance.Proofs.Governance.Attempt
import TokenGovernance.Proofs.Governance.Chain
import TokenGovernance.Proofs.Governance.Flags
import TokenGovernance.Proofs.Governance.Headcount
import TokenGovernance.Proofs.Governance.Merge
import TokenGovernance.Proofs.Governance.Notification
import TokenGovernance.Proofs.Governance.Operator
import TokenGovernance.Proofs.Governance.Previous
import TokenGovernance.Proofs.Governance.Proposal
import TokenGovernance.Proofs.Governance.Roles
import TokenGovernance.Proofs.Governance.Run
import TokenGovernance.Proofs.Identity.Account
import TokenGovernance.Proofs.Identity.Codec
import TokenGovernance.Proofs.Identity.Provenance
import TokenGovernance.Proofs.Identity.Spelling
import TokenGovernance.Proofs.Json.Node
import TokenGovernance.Proofs.Json.Number
import TokenGovernance.Proofs.Json.Printer
import TokenGovernance.Proofs.Json.Record
import TokenGovernance.Proofs.Json.Texts
import TokenGovernance.Proofs.Json.Token
import TokenGovernance.Proofs.Json.Value
import TokenGovernance.Proofs.Json.Wire
import TokenGovernance.Proofs.Keyed
import TokenGovernance.Proofs.Ledger.Codec
import TokenGovernance.Proofs.Ledger.History
import TokenGovernance.Proofs.Ledger.Snapshot
import TokenGovernance.Proofs.Outcome
import TokenGovernance.Proofs.Text.Blank
import TokenGovernance.Proofs.Text.Digits
import TokenGovernance.Proofs.Text.Hex
import TokenGovernance.Proofs.Text.Numeral
import TokenGovernance.Proofs.Token.Grammar
import TokenGovernance.Proofs.Token.Hexadecimal
import TokenGovernance.Proofs.Token.Identifier
import TokenGovernance.Proofs.Token.Name
import TokenGovernance.Proofs.Token.Namespace
import TokenGovernance.Proofs.Token.Nonce
import TokenGovernance.Proofs.Token.Seed
import TokenGovernance.Proofs.Transaction.Codec
import TokenGovernance.Proofs.Transaction.Order
import TokenGovernance.Proofs.Wallet.Path
import TokenGovernance.Refusal
import TokenGovernance.Text.Blank
import TokenGovernance.Text.Decomposition
import TokenGovernance.Text.Decomposition.Table
import TokenGovernance.Text.Hex
import TokenGovernance.Text.Hidden
import TokenGovernance.Text.Numeral
import TokenGovernance.Text.Quoted
import TokenGovernance.Token.Hexadecimal
import TokenGovernance.Token.Identifier
import TokenGovernance.Token.Metadata
import TokenGovernance.Token.Name
import TokenGovernance.Token.Namespace
import TokenGovernance.Token.Nonce
import TokenGovernance.Transaction.Basic
import TokenGovernance.Transaction.Codec
import TokenGovernance.Transaction.Operation
import TokenGovernance.Wallet.Account
import TokenGovernance.Wallet.ExtendedKey
import TokenGovernance.Wallet.Mnemonic
import TokenGovernance.Wallet.Path
import TokenGovernance.Wallet.Words
