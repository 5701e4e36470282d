import TokenGovernance.Ledger.Multisig
import TokenGovernance.Proofs.Governance.Flags

/-! # What operations leave on the ledger

The quorum of the governed account, and the flags of accounts. Of all operations only two change any of
these.
-/

namespace TokenGovernance

/-! ## Quorums -/

/-- The cosignatories of an account, and how many of them it takes to act and to remove one. Both numbers are
integers, so that a sum of deltas never wraps around. -/
structure Quorum where
  cosignatories : List PublicKey
  approval : Int
  removal : Int
  deriving DecidableEq

namespace Quorum

/-- The quorum of an account that has no record. -/
def vacant : Quorum :=
  ⟨[], 0, 0⟩

/-- The quorum that a record states. -/
def ofRecord (m : Multisig) : Quorum :=
  ⟨m.cosignatories, m.minApproval.toNat, m.minRemoval.toNat⟩

/-- The quorum after a change: deletions are taken out, additions put last, and both deltas added. -/
def change (q : Quorum) (c : MultisigChange) : Quorum :=
  ⟨q.cosignatories.filter (· ∉ c.deletions) ++ c.additions, q.approval + c.approvalDelta.toInt,
    q.removal + c.removalDelta.toInt⟩

/-- The quorum in which all cosignatories but one have to agree. -/
def allButOne (keys : List PublicKey) : Quorum :=
  ⟨keys, keys.length - 1, keys.length - 1⟩

end Quorum

/-! ## Operations -/

/-- An operation that changes neither a quorum nor a flag. -/
def Operation.Silent : Operation → Prop
  | .multisig _ | .addressRestriction _ => False
  | _ => True

/-- The keys that an operation adds to those of the governed account. -/
def Operation.additions : Operation → List PublicKey
  | .multisig c => c.additions
  | _ => []

theorem Operation.additions_of_silent {o : Operation} (h : o.Silent) : o.additions = [] := by
  cases o with
  | multisig c => exact h.elim
  | _ => rfl

/-- The rule that an operation sets. -/
def Operation.rule? : Operation → Option TokenRestriction
  | .globalRestriction r => some ⟨r.tokenId, r.key, r.newComparison, r.newValue⟩
  | _ => none

/-- The quorum of the governed account, if it has a record, and the flags. -/
structure Chain where
  quorum : Option Quorum
  flags : Flags

namespace Chain

/-- The chain on which nothing was done. -/
def fresh : Chain :=
  ⟨none, fun _ => none⟩

/-- The quorum that a change starts from. -/
def standing (s : Chain) : Quorum :=
  s.quorum.getD .vacant

/-- The keys of the operators. -/
def operators (s : Chain) : List PublicKey :=
  s.standing.cosignatories

/-- The chain after an operation of the governed account or of an operator. -/
def perform (s : Chain) : Operation → Chain
  | .multisig c => { s with quorum := some (s.standing.change c) }
  | .addressRestriction r => { s with flags := Function.update s.flags r.place (some r.newValue) }
  | _ => s

/-- The chain after operations in their order. -/
def performAll (s : Chain) (operations : List Operation) : Chain :=
  operations.foldl perform s

/-- Whether the previous value of every change of a flag is right at the moment of the change. -/
def Truthful (s : Chain) : List Operation → Prop
  | [] => True
  | o :: rest => (∀ r, o = .addressRestriction r → s.flags.Confirms r) ∧ (s.perform o).Truthful rest

variable {s : Chain} {front back operations : List Operation} {restrictions : List AddressRestriction}

theorem standing_of_some {q : Quorum} (h : s.quorum = some q) : s.standing = q := by
  unfold standing
  rw [h, Option.getD_some]

theorem standing_of_none (h : s.quorum = none) : s.standing = .vacant := by
  unfold standing
  rw [h, Option.getD_none]

theorem operators_of_some {q : Quorum} (h : s.quorum = some q) : s.operators = q.cosignatories := by
  unfold operators
  rw [standing_of_some h]

theorem operators_of_none (h : s.quorum = none) : s.operators = [] := by
  unfold operators
  rw [standing_of_none h]
  rfl

@[simp] theorem performAll_nil : s.performAll [] = s := rfl

@[simp] theorem performAll_cons (o : Operation) (rest : List Operation) :
    s.performAll (o :: rest) = (s.perform o).performAll rest := rfl

theorem performAll_append : s.performAll (front ++ back) = (s.performAll front).performAll back :=
  List.foldl_append

theorem truthful_singleton {r : AddressRestriction} :
    s.Truthful [.addressRestriction r] ↔ s.flags.Confirms r := by
  simp only [Truthful, Operation.addressRestriction.injEq, forall_eq', and_true]

theorem truthful_append :
    s.Truthful (front ++ back) ↔ s.Truthful front ∧ (s.performAll front).Truthful back := by
  induction front generalizing s with
  | nil => simp [Truthful]
  | cons o rest ih => simp only [List.cons_append, Truthful, ih, performAll_cons, and_assoc]

theorem perform_of_silent {o : Operation} (h : o.Silent) : s.perform o = s := by
  cases o with
  | multisig c => exact h.elim
  | addressRestriction r => exact h.elim
  | _ => rfl

theorem performAll_of_silent (h : ∀ o ∈ operations, o.Silent) : s.performAll operations = s := by
  induction operations with
  | nil => rfl
  | cons o rest ih =>
    obtain ⟨ho, hrest⟩ := List.forall_mem_cons.mp h
    rw [performAll_cons, perform_of_silent ho, ih hrest]

theorem truthful_congr {s' : Chain} (h : s.flags = s'.flags) :
    s.Truthful operations ↔ s'.Truthful operations := by
  induction operations generalizing s s' with
  | nil => simp [Truthful]
  | cons o rest ih =>
    have hnext : (s.perform o).flags = (s'.perform o).flags := by
      cases o with
      | addressRestriction r => simp only [perform, h]
      | _ => exact h
    simp only [Truthful, h, ih hnext]

theorem truthful_of_no_restriction (h : ∀ r, .addressRestriction r ∉ operations) : s.Truthful operations := by
  induction operations generalizing s with
  | nil => trivial
  | cons o rest ih =>
    refine ⟨fun r ho => ?_, ih fun r hr => h r (List.mem_cons_of_mem _ hr)⟩
    exact absurd (ho ▸ List.mem_cons_self) (h r)

/-! ## Changes of flags to one value -/

theorem performAll_restrictions {value : UInt64} (h : ∀ r ∈ restrictions, r.newValue = value) :
    s.performAll (restrictions.map .addressRestriction) =
      { s with flags := s.flags.write (restrictions.map (·.place)) value } := by
  induction restrictions generalizing s with
  | nil => rw [List.map_nil, List.map_nil, performAll_nil, Flags.write_nil]
  | cons r rest ih =>
    obtain ⟨hr, hrest⟩ := List.forall_mem_cons.mp h
    rw [List.map_cons, performAll_cons, ih hrest, List.map_cons, Flags.write_cons, perform, hr]

theorem truthful_restrictions_of_unset (h : ∀ r ∈ restrictions, r.previousValue = Operation.unset) :
    s.Truthful (restrictions.map .addressRestriction) ↔
      (restrictions.map (·.place)).Nodup ∧ ∀ r ∈ restrictions, s.flags r.place = none := by
  induction restrictions generalizing s with
  | nil => simp [Truthful]
  | cons r rest ih =>
    obtain ⟨hr, hrest⟩ := List.forall_mem_cons.mp h
    simp only [List.map_cons, Truthful, Operation.addressRestriction.injEq, forall_eq',
      Flags.confirms_of_unset hr, ih hrest, perform, List.nodup_cons, List.forall_mem_cons]
    -- What was written once is not unset any more, so that a second change of it is wrong.
    constructor
    · rintro ⟨hnone, hnodup, hnew⟩
      have hplace : ∀ r' ∈ rest, r'.place ≠ r.place := by
        intro r' hr' heq
        have hcontra := hnew r' hr'
        rw [heq, Function.update_self] at hcontra
        cases hcontra
      refine ⟨⟨?_, hnodup⟩, hnone, fun r' hr' => ?_⟩
      · rw [List.mem_map]
        rintro ⟨r', hr', heq⟩
        exact hplace r' hr' heq
      · rw [← hnew r' hr', Function.update_of_ne (hplace r' hr')]
    · rintro ⟨⟨hmem, hnodup⟩, hnone, hnew⟩
      refine ⟨hnone, hnodup, fun r' hr' => ?_⟩
      rw [Function.update_of_ne, hnew r' hr']
      intro heq
      exact hmem (heq ▸ List.mem_map_of_mem hr')

/-! ## Changes of operators

Every command changes the quorum among silent operations, and the flags behind them.
-/

section

variable {o : Operation} {c : MultisigChange} {middle : List Operation} (ho : o.Silent)
  (hmiddle : ∀ x ∈ middle, x.Silent)

include ho hmiddle

theorem performAll_change {value : UInt64} (h : ∀ r ∈ restrictions, r.newValue = value) :
    s.performAll (o :: .multisig c :: middle ++ restrictions.map Operation.addressRestriction) =
      ⟨some (s.standing.change c), s.flags.write (restrictions.map (·.place)) value⟩ := by
  rw [performAll_append, performAll_cons, perform_of_silent ho, performAll_cons, performAll_of_silent hmiddle,
    performAll_restrictions h]
  rfl

theorem truthful_change :
    s.Truthful (o :: .multisig c :: middle ++ restrictions.map Operation.addressRestriction) ↔
      s.Truthful (restrictions.map Operation.addressRestriction) := by
  have hfront : s.Truthful (o :: .multisig c :: middle) := by
    apply truthful_of_no_restriction
    intro r hr
    rcases List.mem_cons.mp hr with rfl | hr
    · exact ho
    · rcases List.mem_cons.mp hr with hr | hr
      · cases hr
      · exact hmiddle _ hr
  rw [truthful_append, performAll_cons, perform_of_silent ho, performAll_cons, performAll_of_silent hmiddle]
  simp only [hfront, true_and]
  exact truthful_congr rfl

theorem additions_change :
    (o :: .multisig c :: middle ++ restrictions.map Operation.addressRestriction).flatMap
      Operation.additions = c.additions := by
  have hmiddle' : middle.flatMap Operation.additions = [] :=
    List.flatMap_eq_nil_iff.mpr fun x hx => Operation.additions_of_silent (hmiddle x hx)
  have hrestrictions : (restrictions.map Operation.addressRestriction).flatMap Operation.additions = [] := by
    simp [List.flatMap_eq_nil_iff, Operation.additions]
  rw [List.cons_append, List.cons_append, List.flatMap_cons, List.flatMap_cons, List.flatMap_append, hmiddle',
    hrestrictions, Operation.additions_of_silent ho]
  simp [Operation.additions]

end

end Chain
end TokenGovernance
