import TokenGovernance.Ledger.Snapshot
import TokenGovernance.Proofs.Command.Change
import TokenGovernance.Proofs.Command.Creation
import TokenGovernance.Proofs.Governance.Chain

/-! # What an attempt does

A command that is compiled against a snapshot of the ledger. Whatever its arguments are, it comes to nothing,
or it enrols keys as operators, or it dismisses one.
-/

namespace TokenGovernance

/-- A command, and what it is compiled with. -/
structure Attempt where
  command : Command
  context : Context
  snapshot : Snapshot

namespace Attempt

def invocation (a : Attempt) (t : PublicAccount) : Invocation :=
  ⟨a.context, t⟩

/-- The operations that are emitted for the governed account, none when the command is refused. -/
def operations (a : Attempt) (t : PublicAccount) : List Operation :=
  match a.command.execute (a.invocation t) a.snapshot.reader with
  | .ok transactions => transactions.map (·.transaction.operation)
  | .error _ => []

/-- The chain after the attempt. -/
def outcome (a : Attempt) (t : PublicAccount) (s : Chain) : Chain :=
  s.performAll (a.operations t)

/-- The snapshot holds the record of the governed account that is on the chain. -/
def Sees (a : Attempt) (t : PublicAccount) (s : Chain) : Prop :=
  (a.snapshot.multisig? t.address).map .ofRecord = s.quorum

/-- Where the role of a key stands for a token. -/
def place (a : Attempt) (token : TokenIdentifier) (key : PublicKey) : Place :=
  .role token.id (.ofKey key a.context.network.network)

/-- The attempt makes keys operators, those of a new token or one more. -/
structure Enrols (a : Attempt) (t : PublicAccount) (s : Chain) (token : TokenIdentifier)
    (keys : List PublicKey) : Prop where
  identifier : (a.invocation t).identifier = .ok token
  nodup : keys.Nodup
  new : ∀ k ∈ keys, k ∉ s.operators ∧ k ≠ t.key
  two_le : 2 ≤ (s.operators ++ keys).length
  le_max : (s.operators ++ keys).length ≤ 25
  outcome : a.outcome t s =
    ⟨some (.allButOne (s.operators ++ keys)), s.flags.write (keys.map (a.place token)) 3⟩
  additions : (a.operations t).flatMap Operation.additions = keys
  truthful : s.Truthful (a.operations t) ↔
    (keys.map (a.place token)).Nodup ∧ ∀ k ∈ keys, s.flags (a.place token k) = none

/-- The attempt removes an operator. The thresholds go down by one. -/
structure Dismisses (a : Attempt) (t : PublicAccount) (s : Chain) (token : TokenIdentifier)
    (key : PublicKey) : Prop where
  identifier : (a.invocation t).identifier = .ok token
  listed : key ∈ s.operators
  three_le : 3 ≤ s.operators.length
  outcome : a.outcome t s =
    ⟨some ⟨s.operators.filter (· ≠ key), s.operators.length - 2, s.operators.length - 2⟩,
      s.flags.write [a.place token key] 1⟩
  additions : (a.operations t).flatMap Operation.additions = []
  truthful : s.Truthful (a.operations t) ↔ s.flags (a.place token key) = some 3

variable {a : Attempt} {t : PublicAccount} {s : Chain}

theorem operations_of_ok {transactions : List InnerTransaction}
    (h : a.command.execute (a.invocation t) a.snapshot.reader = .ok transactions) :
    a.operations t = transactions.map (·.transaction.operation) := by
  unfold operations
  rw [h]

/-! ## Enrolling -/

/-- An attempt enrols keys when its operations add them, move both thresholds to the new number less one, and
write the flag of each. -/
theorem enrols_of_operations {token : TokenIdentifier} {keys : List PublicKey} {o : Operation}
    {approval removal : Int8} {middle : List Operation}
    (h : a.operations t = o :: .multisig ⟨approval, removal, keys, []⟩ :: middle ++
      (keys.map fun k => enrolment token.id (.ofKey k a.context.network.network)).map .addressRestriction)
    (ho : o.Silent) (hmiddle : ∀ x ∈ middle, x.Silent)
    (hidentifier : (a.invocation t).identifier = .ok token)
    (hnodup : keys.Nodup) (hnew : ∀ k ∈ keys, k ∉ s.operators ∧ k ≠ t.key)
    (htwo : 2 ≤ (s.operators ++ keys).length) (hmax : (s.operators ++ keys).length ≤ 25)
    (happroval : s.standing.approval + approval.toInt = (s.operators ++ keys).length - 1)
    (hremoval : s.standing.removal + removal.toInt = (s.operators ++ keys).length - 1) :
    a.Enrols t s token keys := by
  -- The quorum is changed in front of the flags, and neither looks at the other.
  have hplaces : (keys.map fun k => enrolment token.id (.ofKey k a.context.network.network)).map (·.place) =
      keys.map (a.place token) := by
    rw [List.map_map]
    rfl
  have hchange : s.standing.change ⟨approval, removal, keys, []⟩ = .allButOne (s.operators ++ keys) := by
    unfold Quorum.change Quorum.allButOne Chain.operators
    simp only [happroval, hremoval, List.not_mem_nil, not_false_eq_true, decide_true, List.filter_true]
    rfl
  refine ⟨hidentifier, hnodup, hnew, htwo, hmax, ?_, ?_, ?_⟩
  · unfold outcome
    have hvalue : ∀ r ∈ keys.map fun k => enrolment token.id (.ofKey k a.context.network.network),
        r.newValue = 3 := by
      simp [enrolment]
    rw [h, Chain.performAll_change ho hmiddle hvalue, hchange, hplaces]
  · rw [h, Chain.additions_change ho hmiddle]
  · have hvalue : ∀ r ∈ keys.map fun k => enrolment token.id (.ofKey k a.context.network.network),
        r.previousValue = Operation.unset := by
      simp [enrolment, Operation.unset]
    rw [h, Chain.truthful_change ho hmiddle, Chain.truthful_restrictions_of_unset hvalue, hplaces,
      List.forall_mem_map]
    rfl

open CreateToken in
theorem silent_of_mem_provisions {b : Arguments} {o : Operation} (h : o ∈ provisions b) : o.Silent := by
  unfold provisions at h
  simp only [List.mem_append, List.mem_mapIdx, List.mem_cons, List.not_mem_nil, or_false] at h
  rcases h with ((⟨j, hj, rfl⟩ | rfl) | hsupply) | rfl | rfl
  · trivial
  · trivial
  · split at hsupply
    · rw [List.mem_singleton] at hsupply
      rw [hsupply]
      trivial
    · cases hsupply
  · trivial
  · trivial

theorem enrols_of_creation (creates : a.command = .createToken) (hquorum : s.quorum = none)
    {b : CreateToken.Arguments} (hreads : b.Reads (a.invocation t)) :
    a.Enrols t s b.identifier (b.operators.map (·.key)) := by
  obtain ⟨approvals, happrovals, hexecute⟩ := CreateToken.execute_of_reads hreads
  have hoperations := operations_of_ok (creates ▸ hexecute a.snapshot.reader)
  rw [CreateToken.operations_issuance, CreateToken.charter] at hoperations
  have hstanding := Chain.standing_of_none hquorum
  have hnone := Chain.operators_of_none hquorum
  have hcount : (s.operators ++ b.operators.map (·.key)).length = b.operators.length := by
    rw [hnone, List.nil_append, List.length_map]
  have hthreshold : (0 : Int) + approvals.toInt = (s.operators ++ b.operators.map (·.key)).length - 1 := by
    rw [hcount, happrovals, Int.zero_add]
  refine enrols_of_operations hoperations trivial (fun o ho => silent_of_mem_provisions ho) hreads.identifier
    hreads.accepted.nodup ?_ ?_ ?_ ?_ ?_
  · intro k hk
    obtain ⟨o, ho, rfl⟩ := List.mem_map.mp hk
    rw [hnone]
    exact ⟨List.not_mem_nil, hreads.accepted.not_target o ho⟩
  · rw [hcount]
    exact hreads.accepted.two_le
  · rw [hcount]
    exact hreads.accepted.le_max
  · rw [hstanding]
    exact hthreshold
  · rw [hstanding]
    exact hthreshold

/-! ## Changing -/

theorem quorum_of_governance (sees : a.Sees t s) {m : Multisig}
    (h : OperatorChange.governance (a.invocation t) a.snapshot.reader = .ok m) :
    s.quorum = some (.ofRecord m) := by
  obtain ⟨hrecord, -⟩ := OperatorChange.governance_eq_ok.mp h
  have hsome : a.snapshot.multisig? t.address = some m := Except.ok.inj hrecord
  unfold Sees at sees
  rw [← sees, hsome, Option.map_some]

open OperatorChange in
theorem enrols_of_addition (adds : a.command = .addOperator) (sees : a.Sees t s) {m : Multisig}
    {b : Arguments} {approval removal : Int8} (h : Adds (a.invocation t) a.snapshot.reader m b approval removal) :
    a.Enrols t s b.identifier [b.operator.key] := by
  obtain ⟨hidentifier, hoperator⟩ := Arguments.read_eq_ok.mp h.read
  obtain ⟨-, -, hself⟩ := Invocation.operator_eq_ok.mp hoperator
  have hexecute := execute_addOperator_eq_ok.mpr ⟨m, b, approval, removal, h, rfl⟩
  have hoperations := operations_of_ok (adds ▸ hexecute)
  have hquorum := quorum_of_governance sees h.governance
  have hstanding := Chain.standing_of_some hquorum
  have hoperators : s.operators = m.cosignatories := Chain.operators_of_some hquorum
  have hcount : (s.operators ++ [b.operator.key]).length = m.cosignatories.length + 1 := by
    rw [hoperators, List.length_append, List.length_singleton]
  have hshape : a.operations t =
      .transfer t.address [] (some ((a.invocation t).notification additionAction b.identifier).message) ::
        .multisig ⟨approval, removal, [b.operator.key], []⟩ :: [] ++
      ([b.operator.key].map fun k => enrolment b.identifier.id (.ofKey k a.context.network.network)).map
        .addressRestriction := hoperations
  refine enrols_of_operations hshape trivial (List.forall_mem_nil _) hidentifier (List.nodup_singleton _)
    ?_ ?_ ?_ ?_ ?_
  · intro k hk
    rw [List.mem_singleton] at hk
    rw [hoperators, hk]
    exact ⟨h.new, hself⟩
  · rw [hcount]
    exact h.deltas.two_le
  · rw [hcount]
    exact h.room
  · rw [hstanding, hcount]
    exact h.deltas.approval_eq
  · rw [hstanding, hcount]
    exact h.deltas.removal_eq

theorem change_removal {m : Multisig} {key : PublicKey} {approval removal : Int8}
    (hleft : 2 ≤ m.cosignatories.length - 1)
    (deltas : OperatorChange.Deltas m (m.cosignatories.length - 1) approval removal) :
    (Quorum.ofRecord m).change ⟨approval, removal, [], [key]⟩ =
      ⟨m.cosignatories.filter (· ≠ key), m.cosignatories.length - 2, m.cosignatories.length - 2⟩ := by
  have happroval := deltas.approval_eq
  have hremoval := deltas.removal_eq
  unfold Quorum.change Quorum.ofRecord
  simp only [List.mem_singleton, List.append_nil, Quorum.mk.injEq, true_and]
  omega

open OperatorChange in
theorem dismisses_of_removal (removes : a.command = .removeOperator) (sees : a.Sees t s) {m : Multisig}
    {b : Arguments} {approval removal : Int8}
    (h : Removes (a.invocation t) a.snapshot.reader m b approval removal) :
    a.Dismisses t s b.identifier b.operator.key := by
  obtain ⟨hidentifier, -⟩ := Arguments.read_eq_ok.mp h.read
  have hexecute := execute_removeOperator_eq_ok.mpr ⟨m, b, approval, removal, h, rfl⟩
  have hoperations := operations_of_ok (removes ▸ hexecute)
  have hquorum := quorum_of_governance sees h.governance
  have hstanding := Chain.standing_of_some hquorum
  have hoperators : s.operators = m.cosignatories := Chain.operators_of_some hquorum
  -- The announcement, the change of the quorum, and the flag of the one that goes.
  have hshape : a.operations t =
      .transfer t.address [] (some ((a.invocation t).notification removalAction b.identifier).message) ::
        .multisig ⟨approval, removal, [], [b.operator.key]⟩ :: [] ++
      [dismissal b.identifier.id (.ofKey b.operator.key a.context.network.network)].map
        Operation.addressRestriction := hoperations
  have hannouncement : (Operation.transfer t.address [] (some ((a.invocation t).notification removalAction
      b.identifier).message)).Silent := trivial
  refine ⟨hidentifier, ?_, ?_, ?_, ?_, ?_⟩
  · rw [hoperators]
    exact h.listed
  · have hleft := h.left
    rw [hoperators]
    omega
  · have hvalue : ∀ r ∈ [dismissal b.identifier.id (.ofKey b.operator.key a.context.network.network)],
        r.newValue = 1 := by
      simp [dismissal]
    unfold outcome
    rw [hshape, Chain.performAll_change hannouncement (List.forall_mem_nil _) hvalue, hstanding,
      change_removal h.left h.deltas, hoperators]
    rfl
  · rw [hshape]
    exact Chain.additions_change hannouncement (List.forall_mem_nil _)
  · rw [hshape, Chain.truthful_change hannouncement (List.forall_mem_nil _), List.map_singleton,
      Chain.truthful_singleton, Flags.confirms_dismissal]
    rfl

/-- Everything that an attempt can do: it is refused, or it enrols keys, or it dismisses one. -/
theorem refused_or_enrols_or_dismisses (sees : a.Sees t s)
    (timely : a.command = .createToken → s.quorum = none) :
    a.operations t = [] ∨ (∃ token keys, a.Enrols t s token keys) ∨
      ∃ token key, a.Dismisses t s token key := by
  -- A refusal emits nothing; what is emitted says which of the commands it was.
  cases h : a.command.execute (a.invocation t) a.snapshot.reader with
  | error refusal =>
    left
    unfold operations
    rw [h]
  | ok transactions =>
    right
    cases hcommand : a.command with
    | createToken =>
      rw [hcommand] at h
      obtain ⟨b, hreads⟩ := CreateToken.reads_of_execute h
      exact .inl ⟨_, _, enrols_of_creation hcommand (timely hcommand) hreads⟩
    | addOperator =>
      rw [hcommand] at h
      obtain ⟨m, b, approval, removal, hadds, -⟩ := OperatorChange.execute_addOperator_eq_ok.mp h
      exact .inl ⟨_, _, enrols_of_addition hcommand sees hadds⟩
    | removeOperator =>
      rw [hcommand] at h
      obtain ⟨m, b, approval, removal, hremoves, -⟩ := OperatorChange.execute_removeOperator_eq_ok.mp h
      exact .inr ⟨_, _, dismisses_of_removal hcommand sees hremoves⟩

end Attempt
end TokenGovernance
