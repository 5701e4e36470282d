import TokenGovernance.Proofs.Command.Arguments
import TokenGovernance.Proofs.Command.Threshold

/-! # What a change of operators emits

When a change is accepted, and the transactions that it then emits.
-/

namespace TokenGovernance.OperatorChange

open Outcome

variable {i : Invocation} {ledger : LedgerReader} {m : Multisig}

/-! ## Reading -/

theorem Arguments.read_eq_ok {a : Arguments} :
    read i = .ok a ↔ i.identifier = .ok a.identifier ∧ i.operator = .ok a.operator := by
  unfold read
  simp only [bind_eq_ok, pure_eq, Except.ok.injEq]
  constructor
  · rintro ⟨identifier, hidentifier, operator, hoperator, rfl⟩
    exact ⟨hidentifier, hoperator⟩
  · rintro ⟨hidentifier, hoperator⟩
    exact ⟨a.identifier, hidentifier, a.operator, hoperator, rfl⟩

theorem ask_eq_ok {α : Type} {answer : Except LedgerFault α} {a : α} : ask answer = .ok a ↔ answer = .ok a :=
  mapError_eq_ok

theorem governance_eq_ok :
    governance i ledger = .ok m ↔
      ledger.multisig? i.target.address = .ok (some m) ∧ m.lists i.context.actor.key := by
  unfold governance
  simp only [bind_eq_ok, ask_eq_ok]
  constructor
  · rintro ⟨_ | record, hrecord, h⟩
    · simp only [bind_eq_ok, throw_eq, require_eq_ok, reduceCtorEq, and_false, exists_false] at h
    · simp only [throw_eq, pure_eq, require_eq_ok, Except.ok.injEq] at h
      obtain ⟨hactor, rfl⟩ := h
      exact ⟨hrecord, hactor⟩
  · rintro ⟨hrecord, hactor⟩
    refine ⟨some m, hrecord, ?_⟩
    simp only [hactor, if_true, pure_eq]

theorem synchronizeAddition_eq_ok :
    synchronizeAddition i ledger = .ok m ↔ governance i ledger = .ok m ∧ ∃ a, Arguments.read i = .ok a ∧
      a.operator.key ∉ m.cosignatories ∧ m.cosignatories.length + 1 ≤ 25 := by
  unfold synchronizeAddition
  simp only [bind_eq_ok, throw_eq, error_bind, pure_eq, refuse_eq_ok, Except.ok.injEq, Nat.not_lt]
  unfold Multisig.lists Limits.maximumOperators
  constructor
  · rintro ⟨record, hgovernance, a, hread, hnew, hroom, rfl⟩
    exact ⟨hgovernance, a, hread, by simpa using hnew, hroom⟩
  · rintro ⟨hgovernance, a, hread, hnew, hroom⟩
    exact ⟨m, hgovernance, a, hread, by simpa using hnew, hroom, rfl⟩

theorem synchronizeRemoval_eq_ok :
    synchronizeRemoval i ledger = .ok m ↔ governance i ledger = .ok m ∧ ∃ a, Arguments.read i = .ok a ∧
      a.operator.key ∈ m.cosignatories ∧ 2 ≤ m.cosignatories.length - 1 := by
  unfold synchronizeRemoval
  simp only [bind_eq_ok, throw_eq, error_bind, pure_eq, refuse_eq_ok, Except.ok.injEq, Nat.not_lt]
  unfold Multisig.lists Limits.minimumOperators
  constructor
  · rintro ⟨record, hgovernance, a, hread, hlisted, hleft, rfl⟩
    exact ⟨hgovernance, a, hread, by simpa using hlisted, hleft⟩
  · rintro ⟨hgovernance, a, hread, hlisted, hleft⟩
    exact ⟨m, hgovernance, a, hread, by simpa using hlisted, hleft, rfl⟩

theorem requireArguments_of_read {a : Arguments} (h : Arguments.read i = .ok a) {c : Command}
    (hc : c.arguments = ["identifier", "operator"]) : c.requireArguments i = .ok () := by
  obtain ⟨hidentifier, hoperator⟩ := Arguments.read_eq_ok.mp h
  obtain ⟨seed, -, hseed, -, -⟩ := Invocation.identifier_eq_ok.mp hidentifier
  unfold Command.requireArguments
  rw [hc, List.find?_cons, Invocation.has_of_seed hseed, List.find?_cons,
    Invocation.has_of_operator hoperator]
  rfl

theorem validate_addOperator_eq_ok :
    Command.addOperator.validate i = .ok () ↔ ∃ a, Arguments.read i = .ok a := by
  unfold Command.validate
  simp only [bind_eq_ok, exists_unit, pure_eq, and_true]
  constructor
  · rintro ⟨-, hread⟩
    exact hread
  · rintro ⟨a, hread⟩
    exact ⟨requireArguments_of_read hread rfl, a, hread⟩

theorem validate_removeOperator_eq_ok :
    Command.removeOperator.validate i = .ok () ↔ ∃ a, Arguments.read i = .ok a := by
  unfold Command.validate
  simp only [bind_eq_ok, exists_unit, pure_eq, and_true]
  constructor
  · rintro ⟨-, hread⟩
    exact hread
  · rintro ⟨a, hread⟩
    exact ⟨requireArguments_of_read hread rfl, a, hread⟩

/-! ## Emitting -/

/-- The deltas that take the thresholds of a record to those of `count` operators. -/
structure Deltas (m : Multisig) (count : Nat) (approval removal : Int8) : Prop where
  two_le : 2 ≤ count
  le_max : count ≤ 256
  approval_eq : (m.minApproval.toNat : Int) + approval.toInt = (count : Int) - 1
  removal_eq : (m.minRemoval.toNat : Int) + removal.toInt = (count : Int) - 1

theorem transactions_eq_ok {a : Arguments} {action : String} {count : Nat}
    {additions deletions : List PublicKey} {role : InnerTransaction} {txs : List InnerTransaction} :
    transactions i a action m count additions deletions role = .ok txs ↔
      ∃ approval removal, Deltas m count approval removal ∧
        txs = [i.proofOfIntent action a.identifier,
          i.byTarget (.multisig ⟨approval, removal, additions, deletions⟩), role] := by
  unfold transactions
  simp only [bind_eq_ok, pure_eq, Except.ok.injEq, Threshold.delta_eq_ok]
  constructor
  · rintro ⟨approval, ⟨htwo, hmax, happroval⟩, removal, ⟨-, -, hremoval⟩, rfl⟩
    exact ⟨approval, removal, ⟨htwo, hmax, happroval, hremoval⟩, rfl⟩
  · rintro ⟨approval, removal, h, rfl⟩
    exact ⟨approval, ⟨h.two_le, h.le_max, h.approval_eq⟩, removal, ⟨h.two_le, h.le_max, h.removal_eq⟩, rfl⟩

theorem assembleAddition_eq_ok {txs : List InnerTransaction} :
    assembleAddition i m = .ok txs ↔ ∃ a, Arguments.read i = .ok a ∧ ∃ approval removal,
      Deltas m (m.cosignatories.length + 1) approval removal ∧
        txs = [i.proofOfIntent additionAction a.identifier,
          i.byTarget (.multisig ⟨approval, removal, [a.operator.key], []⟩),
          i.byOperator a.operator (i.assignment a.identifier a.operator none .operator)] := by
  unfold assembleAddition
  simp only [bind_eq_ok, transactions_eq_ok]

theorem assembleRemoval_eq_ok {txs : List InnerTransaction} :
    assembleRemoval i m = .ok txs ↔ ∃ a, Arguments.read i = .ok a ∧ ∃ approval removal,
      Deltas m (m.cosignatories.length - 1) approval removal ∧
        txs = [i.proofOfIntent removalAction a.identifier,
          i.byTarget (.multisig ⟨approval, removal, [], [a.operator.key]⟩),
          i.byTarget (i.assignment a.identifier a.operator (some .operator) .guest)] := by
  unfold assembleRemoval
  simp only [bind_eq_ok, transactions_eq_ok]

theorem execute_addOperator : Command.addOperator.execute i ledger =
    Command.addOperator.validate i >>= fun _ => synchronizeAddition i ledger >>= assembleAddition i :=
  rfl

theorem execute_removeOperator : Command.removeOperator.execute i ledger =
    Command.removeOperator.validate i >>= fun _ => synchronizeRemoval i ledger >>= assembleRemoval i :=
  rfl

/-- An addition that goes through: its arguments are accepted, the actor is listed and the operator is not,
there is room, and the deltas move the thresholds. -/
structure Adds (i : Invocation) (ledger : LedgerReader) (m : Multisig) (a : Arguments)
    (approval removal : Int8) : Prop where
  governance : governance i ledger = .ok m
  read : Arguments.read i = .ok a
  new : a.operator.key ∉ m.cosignatories
  room : m.cosignatories.length + 1 ≤ 25
  deltas : Deltas m (m.cosignatories.length + 1) approval removal

/-- A removal that goes through: its arguments are accepted, the actor and the operator are listed, enough
operators are left, and the deltas move the thresholds. -/
structure Removes (i : Invocation) (ledger : LedgerReader) (m : Multisig) (a : Arguments)
    (approval removal : Int8) : Prop where
  governance : governance i ledger = .ok m
  read : Arguments.read i = .ok a
  listed : a.operator.key ∈ m.cosignatories
  left : 2 ≤ m.cosignatories.length - 1
  deltas : Deltas m (m.cosignatories.length - 1) approval removal

theorem execute_addOperator_eq_ok {txs : List InnerTransaction} :
    Command.addOperator.execute i ledger = .ok txs ↔ ∃ m a approval removal,
      Adds i ledger m a approval removal ∧ txs = [i.proofOfIntent additionAction a.identifier,
        i.byTarget (.multisig ⟨approval, removal, [a.operator.key], []⟩),
        i.byOperator a.operator (i.assignment a.identifier a.operator none .operator)] := by
  rw [execute_addOperator]
  simp only [bind_eq_ok, exists_unit, validate_addOperator_eq_ok, synchronizeAddition_eq_ok,
    assembleAddition_eq_ok]
  constructor
  · rintro ⟨-, m, ⟨hgovernance, a, hread, hnew, hroom⟩, a', hread', approval, removal, hdeltas, htxs⟩
    obtain rfl : a = a' := Except.ok.inj (hread.symm.trans hread')
    exact ⟨m, a, approval, removal, ⟨hgovernance, hread, hnew, hroom, hdeltas⟩, htxs⟩
  · rintro ⟨m, a, approval, removal, h, htxs⟩
    exact ⟨⟨a, h.read⟩, m, ⟨h.governance, a, h.read, h.new, h.room⟩, a, h.read, approval, removal, h.deltas,
      htxs⟩

theorem execute_removeOperator_eq_ok {txs : List InnerTransaction} :
    Command.removeOperator.execute i ledger = .ok txs ↔ ∃ m a approval removal,
      Removes i ledger m a approval removal ∧ txs = [i.proofOfIntent removalAction a.identifier,
        i.byTarget (.multisig ⟨approval, removal, [], [a.operator.key]⟩),
        i.byTarget (i.assignment a.identifier a.operator (some .operator) .guest)] := by
  rw [execute_removeOperator]
  simp only [bind_eq_ok, exists_unit, validate_removeOperator_eq_ok, synchronizeRemoval_eq_ok,
    assembleRemoval_eq_ok]
  constructor
  · rintro ⟨-, m, ⟨hgovernance, a, hread, hlisted, hleft⟩, a', hread', approval, removal, hdeltas, htxs⟩
    obtain rfl : a = a' := Except.ok.inj (hread.symm.trans hread')
    exact ⟨m, a, approval, removal, ⟨hgovernance, hread, hlisted, hleft, hdeltas⟩, htxs⟩
  · rintro ⟨m, a, approval, removal, h, htxs⟩
    exact ⟨⟨a, h.read⟩, m, ⟨h.governance, a, h.read, h.listed, h.left⟩, a, h.read, approval, removal,
      h.deltas, htxs⟩

end TokenGovernance.OperatorChange
