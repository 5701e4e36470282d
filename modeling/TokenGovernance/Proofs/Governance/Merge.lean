import TokenGovernance.Proofs.Governance.Proposal

/-! # Proposals that meet

Proposals for different operators that compiled against one record and are carried out one after the other,
when the record is not the same any more. None of them knows of the others. They still come to the operators
that all of them together ask for, and to the thresholds of so many operators, in whatever order.
-/

namespace TokenGovernance

open OperatorChange

/-! ## One change -/

/-- Each operator is listed once, and all of them but one have to agree. -/
structure Quorum.AllButOneOf (q : Quorum) (operators : Finset PublicKey) : Prop where
  nodup : q.cosignatories.Nodup
  toFinset : q.cosignatories.toFinset = operators
  approval : q.approval = operators.card - 1
  removal : q.removal = operators.card - 1

/-- How far a change moves the thresholds of a record that has the right ones. -/
def OperatorChange.Kind.shift : Kind → Int
  | .add => 1
  | .remove => -1

theorem OperatorChange.Kind.count_eq_shift {k : Kind} {n : Nat} (h : k = .remove → 1 ≤ n) :
    (k.count n : Int) = n + k.shift := by
  cases k with
  | add => rfl
  | remove =>
    have hpos := h rfl
    change ((n - 1 : Nat) : Int) = n + -1
    omega

/-- The operators may have changed since the change was compiled, as long as its own key stands as it did. -/
theorem Quorum.AllButOneOf.change {q : Quorum} {operators : Finset PublicKey} {k : Kind} {key : PublicKey}
    {approval removal : Int8} (h : q.AllButOneOf operators) (fits : key ∈ operators ↔ k = .remove)
    (happroval : approval.toInt = k.shift) (hremoval : removal.toInt = k.shift) :
    (q.change (k.change key approval removal)).AllButOneOf (k.revise key operators) := by
  have hcard : ((k.revise key operators).card : Int) = operators.card + k.shift := by
    rw [Kind.card_revise fits]
    apply Kind.count_eq_shift
    intro hremove
    exact Finset.card_pos.mpr ⟨key, fits.mpr hremove⟩
  have hfits : key ∈ q.cosignatories ↔ k = .remove := by
    rw [← fits, ← h.toFinset, List.mem_toFinset]
  refine ⟨Quorum.nodup_change h.nodup hfits, ?_, ?_, ?_⟩
  · rw [Quorum.toFinset_change, h.toFinset]
  · have hq := h.approval
    have hsum : (q.change (k.change key approval removal)).approval = q.approval + k.shift := by
      rw [← happroval, Quorum.change, Kind.approvalDelta_change]
    omega
  · have hq := h.removal
    have hsum : (q.change (k.change key approval removal)).removal = q.removal + k.shift := by
      rw [← hremoval, Quorum.change, Kind.removalDelta_change]
    omega

namespace Proposal

variable {t : PublicAccount} {m : Multisig} {p : Proposal t m} {proposals order : List (Proposal t m)}

theorem Accepted.delta_eq_shift {approval removal : Int8} (h : p.Accepted approval removal)
    (hm : (Quorum.ofRecord m).AllButOneOf m.cosignatories.toFinset) :
    approval.toInt = p.kind.shift ∧ removal.toInt = p.kind.shift := by
  have hcard : m.cosignatories.toFinset.card = m.cosignatories.length := List.toFinset_card_of_nodup hm.nodup
  have hcount : (p.kind.count m.cosignatories.length : Int) = m.cosignatories.length + p.kind.shift := by
    apply Kind.count_eq_shift
    intro hremove
    exact List.length_pos_of_mem (h.fits.mpr hremove)
  have happroval : (m.minApproval.toNat : Int) = m.cosignatories.toFinset.card - 1 := hm.approval
  have hremoval : (m.minRemoval.toNat : Int) = m.cosignatories.toFinset.card - 1 := hm.removal
  have happroval' := h.deltas.approval_eq
  have hremoval' := h.deltas.removal_eq
  constructor
  · omega
  · omega

/-! ## Many changes -/

/-- The keys that the proposals of one kind add or remove. -/
def keysOf (k : Kind) (proposals : List (Proposal t m)) : Finset PublicKey :=
  ((proposals.filter (·.kind = k)).map key).toFinset

theorem mem_keysOf {k : Kind} {x : PublicKey} :
    x ∈ keysOf k proposals ↔ ∃ p ∈ proposals, p.kind = k ∧ p.key = x := by
  simp [keysOf, and_assoc]

theorem mem_keysOf_cons {k : Kind} {x : PublicKey} :
    x ∈ keysOf k (p :: proposals) ↔ (p.kind = k ∧ p.key = x) ∨ x ∈ keysOf k proposals := by
  simp only [mem_keysOf, List.mem_cons, exists_eq_or_imp]

theorem keysOf_perm (h : order.Perm proposals) (k : Kind) : keysOf k order = keysOf k proposals := by
  ext x
  simp only [mem_keysOf, h.mem_iff]

theorem revise_union_sdiff (operators : Finset PublicKey) (h : ∀ p' ∈ order, p'.key ≠ p.key) :
    (p.kind.revise p.key operators ∪ keysOf .add order) \ keysOf .remove order =
      (operators ∪ keysOf .add (p :: order)) \ keysOf .remove (p :: order) := by
  have hother (k : Kind) : p.key ∉ keysOf k order := by
    rw [mem_keysOf]
    rintro ⟨p', hp', -, hkey⟩
    exact h p' hp' hkey
  -- Only the key of the proposal itself can tell the two sets apart, and no other proposal moves it.
  ext x
  simp only [Finset.mem_sdiff, Finset.mem_union, mem_keysOf_cons]
  by_cases hx : x = p.key
  · subst hx
    cases hkind : p.kind with
    | add => simp [Kind.revise, hother]
    | remove => simp [Kind.revise, hother]
  · rw [Kind.mem_revise_of_ne hx]
    simp [Ne.symm hx]

theorem exists_quorum_performAll (hm : (Quorum.ofRecord m).AllButOneOf m.cosignatories.toFinset)
    (distinct : (order.map key).Nodup) {operators : Finset PublicKey}
    (fits : ∀ p ∈ order, p.key ∈ operators ↔ p.kind = .remove) {s : Chain} {q : Quorum}
    (hs : s.quorum = some q) (hq : q.AllButOneOf operators) :
    ∃ q', (s.performAll (order.flatMap operations)).quorum = some q' ∧
      q'.AllButOneOf ((operators ∪ keysOf .add order) \ keysOf .remove order) := by
  -- The deltas are those of the record `m`, while the operators, the quorum and the chain move on.
  induction order generalizing operators s q with
  | nil =>
    refine ⟨q, hs, ?_⟩
    simpa [keysOf] using hq
  | cons p rest ih =>
    rw [List.map_cons, List.nodup_cons] at distinct
    obtain ⟨hnew, hrest⟩ := distinct
    obtain ⟨hfits, hfitsRest⟩ := List.forall_mem_cons.mp fits
    have hother : ∀ p' ∈ rest, p'.key ≠ p.key := by
      intro p' hp' hkey
      exact hnew (hkey ▸ List.mem_map_of_mem hp')
    obtain ⟨approval, removal, haccepted⟩ := p.exists_accepted
    obtain ⟨happroval, hremoval⟩ := haccepted.delta_eq_shift hm
    have hstep := hq.change hfits happroval hremoval
    have hquorum := haccepted.quorum_performAll s
    rw [Chain.standing_of_some hs] at hquorum
    -- The rest are about other keys, each of which they find as it was.
    have hfits' : ∀ p' ∈ rest, p'.key ∈ p.kind.revise p.key operators ↔ p'.kind = .remove := by
      intro p' hp'
      rw [Kind.mem_revise_of_ne (hother p' hp')]
      exact hfitsRest p' hp'
    rw [List.flatMap_cons, Chain.performAll_append, ← revise_union_sdiff operators hother]
    exact ih hrest hfits' hquorum hstep

/-- Proposals for different operators come to the same in every order: nobody is lost, nobody is listed
twice, and all operators but one have to agree. -/
theorem merge_in_any_order (nodup : m.cosignatories.Nodup)
    (approval : (m.minApproval.toNat : Int) = m.cosignatories.length - 1)
    (removal : (m.minRemoval.toNat : Int) = m.cosignatories.length - 1)
    (distinct : (proposals.map key).Nodup) (perm : order.Perm proposals) {s : Chain}
    (hs : s.quorum = some (.ofRecord m)) :
    ∃ q, (s.performAll (order.flatMap operations)).quorum = some q ∧
      q.AllButOneOf
        ((m.cosignatories.toFinset ∪ keysOf .add proposals) \ keysOf .remove proposals) := by
  have hcard : m.cosignatories.toFinset.card = m.cosignatories.length := List.toFinset_card_of_nodup nodup
  have hm : (Quorum.ofRecord m).AllButOneOf m.cosignatories.toFinset := by
    refine ⟨nodup, rfl, ?_, ?_⟩
    · rw [hcard]
      exact approval
    · rw [hcard]
      exact removal
  have hdistinct : (order.map key).Nodup := (perm.map key).nodup_iff.mpr distinct
  rw [← keysOf_perm perm, ← keysOf_perm perm]
  refine exists_quorum_performAll hm hdistinct ?_ hs hm
  intro p _
  obtain ⟨_, _, haccepted⟩ := p.exists_accepted
  rw [List.mem_toFinset]
  exact haccepted.fits

end Proposal

/-! ## A sample -/

namespace Sample

/-- One operator comes and one goes, the other way round than they are listed. -/
theorem merge_arrival_and_parting :
    ∃ q, ((⟨some (.ofRecord crew), fun _ => none⟩ : Chain).performAll
        ([parting, arrival].flatMap Proposal.operations)).quorum = some q ∧
      q.AllButOneOf {key 2, key 3, key 5} := by
  have hset : (crew.cosignatories.toFinset ∪ Proposal.keysOf .add [arrival, parting]) \
      Proposal.keysOf .remove [arrival, parting] = {key 2, key 3, key 5} := by
    decide
  rw [← hset]
  exact Proposal.merge_in_any_order (by decide) (by decide) (by decide) (by decide) (.swap ..) rfl

end Sample
end TokenGovernance
