import TokenGovernance.Ledger.Multisig
import TokenGovernance.Refusal

/-! # Ledger readers -/

namespace TokenGovernance

/-- What commands ask a ledger. Either answer may fail to come. -/
structure LedgerReader where
  accountExists : Address → Except LedgerFault Bool
  multisig? : Address → Except LedgerFault (Option Multisig)

end TokenGovernance
