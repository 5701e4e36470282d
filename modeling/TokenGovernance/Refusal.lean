import TokenGovernance.Identity.Account
import TokenGovernance.Json.Fault
import TokenGovernance.Limits
import TokenGovernance.Text.Numeral
import TokenGovernance.Wallet.Mnemonic
import TokenGovernance.Wallet.Path

/-! # Refusals

Why nothing is compiled: the causes, and their wording.
-/

namespace TokenGovernance

inductive LedgerFault
  | unavailable (text : String)
  | malformed (text : String)
  deriving DecidableEq, Repr

def LedgerFault.message : LedgerFault → String
  | .unavailable text => "Ledger unavailable: " ++ text
  | .malformed text => "Malformed ledger response: " ++ text

/-- What is wrong with the value of an argument. -/
inductive Reason
  | alreadySet
  | undecodable (flaw : Json.Flaw)
  | hex (fault : Hex.Fault)
  | size (wanted found : Nat)
  | checksum
  | unknownNetwork
  | foreignAddress (address : Address) (key : PublicKey)
  | nonceHex (fault : Hex.Fault)
  | nonceSize
  | numeral (fault : Numeral.Fault)
  | empty
  | seed (text : String)
  | levels (found : Nat)
  | segment (text : String)
  | role
  | selfCosigning
  | duplicateOperator (key : PublicKey)
  | operatorCount (found : Nat)
  | operatorsFull
  | thresholdRange
  | alreadyOperator (key : PublicKey)
  | notOperator (key : PublicKey)
  | transactionHash
  | secret
  | mnemonic (fault : Wallet.MnemonicFault)
  deriving DecidableEq

def Reason.message : Reason → String
  | .alreadySet => "already set for this execution"
  | .undecodable flaw => flaw.message
  | .hex fault => "invalid hex: " ++ fault.message
  | .size wanted found => "must be " ++ toString wanted ++ " bytes, got " ++ toString found
  | .checksum => "checksum mismatch"
  | .unknownNetwork => "unknown network byte"
  | .foreignAddress address key => address.toHex ++ " does not belong to " ++ key.toHex
  | .nonceHex fault => "invalid nonce hex: " ++ fault.message
  | .nonceSize => "nonce must be 4 bytes"
  | .numeral fault => fault.message
  | .empty => "must not be empty"
  | .seed text => "unsupported seed " ++ text
  | .levels found => toString found ++ " levels, at most " ++ toString Limits.maximumDepth ++ " allowed"
  | .segment text => "invalid namespace segment '" ++ text ++ "'"
  | .role => "cosignatories must carry the operator role"
  | .selfCosigning => "the token account cannot cosign for itself"
  | .duplicateOperator key => "duplicate operator " ++ key.toHex
  | .operatorCount found =>
    toString found ++ " operators, at most " ++ toString Limits.maximumOperators ++ " allowed"
  | .operatorsFull => "at most " ++ toString Limits.maximumOperators ++ " operators allowed"
  | .thresholdRange => "too many operators"
  | .alreadyOperator key => key.toHex ++ " is already an operator"
  | .notOperator key => key.toHex ++ " is not an operator"
  | .transactionHash => "must be 32 bytes of hex"
  | .secret => "malformed or out-of-range secret key"
  | .mnemonic fault => fault.message

/-- What makes a command fail beside its arguments. -/
inductive Failure
  | ledger (fault : LedgerFault)
  | notTokenAccount (address : Address)
  | unknownAccount (address : Address)
  | thresholdDelta (delta : Int)
  | barrenSeed
  deriving DecidableEq

def Failure.message : Failure → String
  | .ledger fault => fault.message
  | .notTokenAccount address => address.toHex ++ " is not a NIP13 token account"
  | .unknownAccount address => address.toHex ++ " is unknown to the ledger"
  | .thresholdDelta delta => "threshold delta " ++ toString delta ++ " out of range"
  | .barrenSeed => "secp256k1 error"

inductive Refusal
  | missingArgument (name : String)
  | invalidCommand (name : String)
  | tooFewOperators (found : Nat)
  | invalidPath (fault : Wallet.PathFault)
  | forbidden (actor target : Address)
  | invalidArgument (name : String) (reason : Reason)
  | failed (failure : Failure)
  deriving DecidableEq

def Refusal.message : Refusal → String
  | .missingArgument name => "Missing argument: " ++ name
  | .invalidCommand name => "Invalid command: " ++ name
  | .tooFewOperators found =>
    "Minimum required operators not reached: required " ++ toString Limits.minimumOperators ++ ", found " ++
      toString found
  | .invalidPath fault => "Invalid derivation path: " ++ fault.message
  | .forbidden actor target =>
    "Operation forbidden: " ++ actor.toHex ++ " is not an operator of " ++ target.toHex
  | .invalidArgument name reason => "Invalid argument '" ++ name ++ "': " ++ reason.message
  | .failed failure => "Command execution failure: " ++ failure.message

end TokenGovernance
