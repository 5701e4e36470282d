import TokenGovernance.Proofs.Command.Verdict
import TokenGovernance.Proofs.Governance.Chain
import Mathlib.Data.Finset.Card

/-! # Proposals

Changes of operators that compiled against one record of an account. Nothing is said about when they are
carried out, nor about what the record has become by then.
-/

namespace TokenGovernance

open OperatorChange

/-! ## Sets of operators -/

/-- The operators after a change. -/
def OperatorChange.Kind.revise : Kind → PublicKey → Finset PublicKey → Finset PublicKey
  | .add, key, keys => insert key keys
  | .remove, key, keys => keys.erase key

section

variable {k : Kind} {key : PublicKey} {keys : Finset PublicKey}

theorem OperatorChange.Kind.card_revise (fits : key ∈ keys ↔ k = .remove) :
    (k.revise key keys).card = k.count keys.card := by
  cases k with
  | add =>
    have hnew : key ∉ keys := by simpa using fits
    exact Finset.card_insert_of_notMem hnew
  | remove =>
    have hlisted : key ∈ keys := fits.mpr rfl
    exact Finset.card_erase_of_mem hlisted

theorem OperatorChange.Kind.mem_revise_of_ne {key' : PublicKey} (h : key' ≠ key) :
    key' ∈ k.revise key keys ↔ key' ∈ keys := by
  cases k with
  | add => simp [revise, h]
  | remove => simp [revise, h]

theorem Quorum.toFinset_change {q : Quorum} {approval removal : Int8} :
    (q.change (k.change key approval removal)).cosignatories.toFinset =
      k.revise key q.cosignatories.toFinset := by
  ext x
  cases k with
  | add => simp [change, Kind.change, Kind.revise]
  | remove => simp [change, Kind.change, Kind.revise, and_comm]

theorem Quorum.nodup_change {q : Quorum} {approval removal : Int8} (nodup : q.cosignatories.Nodup)
    (fits : key ∈ q.cosignatories ↔ k = .remove) :
    (q.change (k.change key approval removal)).cosignatories.Nodup := by
  cases k with
  | add =>
    have hnew : key ∉ q.cosignatories := by simpa using fits
    simpa [change, Kind.change, List.concat_eq_append] using nodup.concat hnew
  | remove => simpa [change, Kind.change] using nodup.filter _

end

/-! ## Proposals -/

/-- A change of operators of the account `t` that compiled against the record `m`, with what it read and what
it emits. -/
structure Proposal (t : PublicAccount) (m : Multisig) where
  kind : Kind
  context : Context
  ledger : LedgerReader
  record : ledger.multisig? t.address = .ok (some m)
  arguments : Arguments
  read : Arguments.read ⟨context, t⟩ = .ok arguments
  transactions : List InnerTransaction
  compiled : kind.command.execute ⟨context, t⟩ ledger = .ok transactions

/-- The change of cosignatories that an operation makes. -/
def Operation.multisig? : Operation → Option MultisigChange
  | .multisig c => some c
  | _ => none

namespace Proposal

variable {t : PublicAccount} {m : Multisig}

theorem exists_of_execute {k : Kind} {context : Context} {ledger : LedgerReader}
    {transactions : List InnerTransaction} (hm : ledger.multisig? t.address = .ok (some m))
    (h : k.command.execute ⟨context, t⟩ ledger = .ok transactions) :
    ∃ p : Proposal t m, p.kind = k ∧ p.context = context ∧ p.ledger = ledger ∧
      p.transactions = transactions := by
  cases hvalid : k.command.validate ⟨context, t⟩ with
  | error refusal =>
    rw [Kind.execute_of_validate_error hvalid] at h
    cases h
  | ok _ =>
    obtain ⟨a, hread⟩ := k.validate_eq_ok.mp hvalid
    exact ⟨⟨k, context, ledger, hm, a, hread, transactions, h⟩, rfl, rfl, rfl, rfl⟩

/-- The key that is added or removed. -/
def key (p : Proposal t m) : PublicKey :=
  p.arguments.operator.key

def operations (p : Proposal t m) : List Operation :=
  p.transactions.map (·.transaction.operation)

/-- The changes of cosignatories among the operations. -/
def modifications (p : Proposal t m) : List MultisigChange :=
  p.operations.filterMap Operation.multisig?

/-- What a proposal found in the record, and what it emits. -/
structure Accepted (p : Proposal t m) (approval removal : Int8) : Prop where
  actor : p.context.actor.key ∈ m.cosignatories
  fits : p.key ∈ m.cosignatories ↔ p.kind = .remove
  room : p.kind = .add → m.cosignatories.length + 1 ≤ 25
  deltas : Deltas m (p.kind.count m.cosignatories.length) approval removal
  transactions : p.transactions = p.kind.emission ⟨p.context, t⟩ p.arguments approval removal

theorem exists_accepted (p : Proposal t m) : ∃ approval removal, p.Accepted approval removal := by
  obtain ⟨kind, context, ledger, hrecord, a, hread, transactions, hcompiled⟩ := p
  cases kind with
  | add =>
    obtain ⟨m', a', approval, removal, h, htransactions⟩ := execute_addOperator_eq_ok.mp hcompiled
    obtain ⟨rfl, hactor⟩ := (governance_eq_ok_of_record hrecord).mp h.governance
    obtain rfl : a = a' := Except.ok.inj (hread.symm.trans h.read)
    exact ⟨approval, removal, hactor, iff_of_false h.new nofun, fun _ => h.room, h.deltas, htransactions⟩
  | remove =>
    obtain ⟨m', a', approval, removal, h, htransactions⟩ := execute_removeOperator_eq_ok.mp hcompiled
    obtain ⟨rfl, hactor⟩ := (governance_eq_ok_of_record hrecord).mp h.governance
    obtain rfl : a = a' := Except.ok.inj (hread.symm.trans h.read)
    exact ⟨approval, removal, hactor, iff_of_true h.listed rfl, nofun, h.deltas, htransactions⟩

theorem Accepted.quorum_performAll {p : Proposal t m} {approval removal : Int8}
    (h : p.Accepted approval removal) (s : Chain) :
    (s.performAll p.operations).quorum = some (s.standing.change (p.kind.change p.key approval removal)) := by
  unfold operations
  rw [h.transactions]
  unfold Kind.emission
  cases p.kind with
  | add => rfl
  | remove => rfl

theorem Accepted.modifications_eq {p : Proposal t m} {approval removal : Int8}
    (h : p.Accepted approval removal) : p.modifications = [p.kind.change p.key approval removal] := by
  unfold modifications operations
  rw [h.transactions]
  unfold Kind.emission
  cases p.kind with
  | add => rfl
  | remove => rfl

end Proposal

/-! ## A sample -/

namespace Sample

/-- A record of three operators, all but one of whom have to agree. -/
def crew : Multisig :=
  ⟨target.address, [key 2, key 4, key 5], 2, 2⟩

theorem hiring_read : Arguments.read ⟨naming (key 2) third, target⟩ = .ok ⟨token, .ofKey (key 3)⟩ :=
  read_naming rfl (by decide)

def arrival : Proposal target crew where
  kind := .add
  context := naming (key 2) third
  ledger := recording crew
  record := rfl
  arguments := ⟨token, .ofKey (key 3)⟩
  read := hiring_read
  transactions := Kind.add.emission ⟨naming (key 2) third, target⟩ ⟨token, .ofKey (key 3)⟩ 1 1
  compiled := (Kind.execute_of_read .add hiring_read (recording crew)).trans rfl

def parting : Proposal target crew where
  kind := .remove
  context := naming (key 2) fourth
  ledger := recording crew
  record := rfl
  arguments := ⟨token, .ofKey (key 4)⟩
  read := changing_read
  transactions := Kind.remove.emission changing ⟨token, .ofKey (key 4)⟩ (-1) (-1)
  compiled := (Kind.execute_of_read .remove changing_read (recording crew)).trans rfl

end Sample
end TokenGovernance
