import TokenGovernance.Ledger.Snapshot
import TokenGovernance.Proofs.Keyed

/-! # What snapshots answer -/

namespace TokenGovernance.Snapshot

theorem records_withAccount (s : Snapshot) (a : Address) : (s.withAccount a).records = s.records := by
  unfold withAccount
  split
  · rfl
  · rfl

theorem multisig?_withMultisig (s : Snapshot) (m : Multisig) (a : Address) :
    (s.withMultisig m).multisig? a = if a = m.account then some m else s.multisig? a := by
  unfold withMultisig multisig?
  rw [records_withAccount, Keyed.find?_insert]

end TokenGovernance.Snapshot
