import TokenGovernance.Ledger.Snapshot
import TokenGovernance.Proofs.Command.Creation
import TokenGovernance.Proofs.Transaction.Codec

/-! # Reloading what commands emit

The signer of a transaction is a key on a network, so that its address is the one of its key, and every other
address in a transaction is valid. There is then nothing in a list of transactions that its form could lose.
-/

namespace TokenGovernance

open LawfulWire

/-- Lists of transactions are read back as they are, among them what any command emits, and so is every single
transaction that was read from anything. -/
theorem InnerTransaction.reloads_exactly :
    (∀ transactions : List InnerTransaction, Wire.Reloads transactions) ∧
      (∀ (c : Command) (i : Invocation) (ledger : LedgerReader) (transactions : List InnerTransaction),
        c.execute i ledger = .ok transactions → Wire.Reloads transactions) ∧
      ∀ (j : Json) (t : InnerTransaction), Json.decode Wire.decoder j = .ok t → Wire.Reloads t := by
  have hlists : ∀ transactions : List InnerTransaction, Wire.Reloads transactions := reloads (by decide)
  have hsingle : ∀ t : InnerTransaction, Wire.Reloads t := reloads (by decide)
  exact ⟨hlists, fun _ _ _ transactions _ => hlists transactions, fun _ t _ => hsingle t⟩

open Sample in
theorem InnerTransaction.reloads_creation : ∃ transactions, transactions.length = 11 ∧
    Command.createToken.execute creation Snapshot.empty.reader = .ok transactions ∧
      Wire.Reloads transactions ∧ ∀ t ∈ transactions, ∃ j, Json.decode Wire.decoder j = .ok t ∧ Wire.Reloads t := by
  obtain ⟨approvals, -, hexecute⟩ := CreateToken.execute_of_reads creation_reads
  have h := hexecute Snapshot.empty.reader
  obtain ⟨-, hemitted, hread⟩ := InnerTransaction.reloads_exactly
  refine ⟨_, CreateToken.length_issuance _ _ _, h, hemitted _ _ _ _ h, fun t _ => ?_⟩
  have ht : Json.decode Wire.decoder (toJson t) = .ok t := decoder_eq (Json.denotes_toNode _)
  exact ⟨toJson t, ht, hread _ t ht⟩

end TokenGovernance
