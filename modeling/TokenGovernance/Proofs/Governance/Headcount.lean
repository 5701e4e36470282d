import TokenGovernance.Ledger.Snapshot
import TokenGovernance.Proofs.Governance.Proposal
import TokenGovernance.Proofs.Keyed

/-! # Counting operators

A change counts the entries of the record, while the operators are a set. The bounds and the thresholds hold
for the set exactly when no entry is repeated, and a snapshot may well repeat one.
-/

namespace TokenGovernance

open OperatorChange

theorem nodup_iff_card_toFinset {keys : List PublicKey} : keys.Nodup ↔ keys.toFinset.card = keys.length :=
  (Multiset.toFinset_card_eq_card_iff_nodup (m := (keys : Multiset PublicKey))).symm

theorem OperatorChange.Kind.count_inj {k : Kind} {a b : Nat} (ha : 0 < a) (hb : 0 < b) :
    k.count a = k.count b ↔ a = b := by
  cases k with
  | add => exact Nat.add_right_cancel_iff
  | remove =>
    change a - 1 = b - 1 ↔ a = b
    omega

namespace Proposal

variable {t : PublicAccount} {m : Multisig} {p : Proposal t m} {approval removal : Int8}

/-- The operators that the proposal leaves to the record it compiled against. -/
def operators (p : Proposal t m) : Finset PublicKey :=
  p.kind.revise p.key m.cosignatories.toFinset

/-- The proposal takes the thresholds of the record to those of `count` operators. -/
def Reaches (p : Proposal t m) (count : Nat) : Prop :=
  ∃ c, p.modifications = [c] ∧ (m.minApproval.toNat : Int) + c.approvalDelta.toInt = count - 1 ∧
    (m.minRemoval.toNat : Int) + c.removalDelta.toInt = count - 1

/-- Two to 25 operators are left, all but one of whom have to agree. Only an addition can make too many. -/
structure Bounded (p : Proposal t m) : Prop where
  two_le : 2 ≤ p.operators.card
  le_max : p.kind = .add → p.operators.card ≤ 25
  reaches : p.Reaches p.operators.card

theorem Accepted.card_eq_count_iff (h : p.Accepted approval removal) :
    p.operators.card = p.kind.count m.cosignatories.length ↔ m.cosignatories.Nodup := by
  have hfits : p.key ∈ m.cosignatories.toFinset ↔ p.kind = .remove := by
    rw [List.mem_toFinset]
    exact h.fits
  -- The actor is on the record, so that nothing is taken off an empty list or set.
  have hlisted : 0 < m.cosignatories.length := List.length_pos_of_mem h.actor
  have hset : 0 < m.cosignatories.toFinset.card :=
    Finset.card_pos.mpr ⟨_, List.mem_toFinset.mpr h.actor⟩
  unfold operators
  rw [Kind.card_revise hfits, Kind.count_inj hset hlisted, nodup_iff_card_toFinset]

theorem Accepted.reaches_iff (h : p.Accepted approval removal) {count : Nat} :
    p.Reaches count ↔ count = p.kind.count m.cosignatories.length := by
  have happroval := h.deltas.approval_eq
  have hremoval := h.deltas.removal_eq
  unfold Reaches
  rw [h.modifications_eq]
  constructor
  · rintro ⟨c, hc, hcount, -⟩
    obtain rfl := List.singleton_inj.mp hc
    rw [Kind.approvalDelta_change] at hcount
    omega
  · intro hcount
    refine ⟨_, rfl, ?_, ?_⟩
    · rw [Kind.approvalDelta_change, hcount]
      exact happroval
    · rw [Kind.removalDelta_change, hcount]
      exact hremoval

/-- The operators are bounded exactly when the record lists each of its own once. -/
theorem bounded_iff_nodup (p : Proposal t m) : p.Bounded ↔ m.cosignatories.Nodup := by
  obtain ⟨approval, removal, h⟩ := p.exists_accepted
  rw [← h.card_eq_count_iff]
  constructor
  · intro hbounded
    exact h.reaches_iff.mp hbounded.reaches
  · -- The entries that were counted are within the bounds in any case.
    intro hcount
    refine ⟨?_, ?_, h.reaches_iff.mpr hcount⟩
    · rw [hcount]
      exact h.deltas.two_le
    · intro hadd
      rw [hcount, hadd]
      exact h.room hadd

end Proposal

/-! ## A sample -/

namespace Sample

theorem bounded_parting : parting.Bounded :=
  (Proposal.bounded_iff_nodup parting).mpr (by decide)

/-- A record in which one of two operators stands twice. -/
def crowd : Multisig :=
  ⟨target.address, [key 2, key 2, key 4], 1, 1⟩

def crowded : Snapshot :=
  ⟨[], [(target.address, crowd)]⟩

def crowdedJson : Json :=
  let address := "988C0CC17A04942CC4F8E0FE0B302606D3108860C1559463"
  .object [("accounts", .array []), ("multisig", .object [(address, .object [("account", .string address),
    ("cosignatories", .array [.string second, .string second, .string fourth]), ("min_approval", .nat 1),
    ("min_removal", .nat 1)])])]

theorem crowded_decoded : Json.decode Wire.decoder crowdedJson = .ok crowded := by
  decide +kernel

theorem crowded_record : crowded.reader.multisig? target.address = .ok (some crowd) :=
  congrArg Except.ok (Keyed.find?_cons_self target.address crowd [])

theorem execute_of_crowd {ledger : LedgerReader} (h : ledger.multisig? target.address = .ok (some crowd)) :
    Command.removeOperator.execute changing ledger =
      .ok (Kind.remove.emission changing ⟨token, .ofKey (key 4)⟩ 0 0) := by
  have hverdict := Kind.execute_of_read .remove changing_read ledger
  rw [Kind.verdict_of_record h] at hverdict
  exact hverdict

def desertion : Proposal target crowd where
  kind := .remove
  context := naming (key 2) fourth
  ledger := crowded.reader
  record := crowded_record
  arguments := ⟨token, .ofKey (key 4)⟩
  read := changing_read
  transactions := Kind.remove.emission changing ⟨token, .ofKey (key 4)⟩ 0 0
  compiled := execute_of_crowd crowded_record

/-- One operator is left, of whom the thresholds still ask one. -/
theorem unbounded_desertion : ∃ snapshot, Json.decode Wire.decoder crowdedJson = .ok snapshot ∧
    desertion.ledger = Snapshot.reader snapshot ∧ desertion.operators.card = 1 ∧ ¬ desertion.Bounded := by
  have hcard : desertion.operators.card = 1 := by decide
  refine ⟨crowded, crowded_decoded, rfl, hcard, ?_⟩
  intro hbounded
  have htwo := hbounded.two_le
  omega

end Sample
end TokenGovernance
