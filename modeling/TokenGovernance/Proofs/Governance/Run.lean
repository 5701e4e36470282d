import TokenGovernance.Proofs.Command.Verdict
import TokenGovernance.Proofs.Governance.Attempt
import TokenGovernance.Proofs.Ledger.Snapshot

/-! # Runs

Any number of attempts for one account, each compiled against the record that the earlier ones left. In every
run the thresholds follow the operators: a quorum never needs more than all of them but one.
-/

namespace TokenGovernance

/-- An attempt, and the chain that it is made on. -/
structure Step where
  before : Chain
  attempt : Attempt

/-- The chain after steps, the last of which comes first. A token is only created while there is no record. -/
inductive Run (t : PublicAccount) : List Step → Chain → Prop
  | fresh : Run t [] .fresh
  | step {past : List Step} {s : Chain} (run : Run t past s) (a : Attempt) (sees : a.Sees t s)
      (timely : a.command = .createToken → s.quorum = none) : Run t (⟨s, a⟩ :: past) (a.outcome t s)

variable {t : PublicAccount} {s : Chain} {past : List Step} {a : Attempt}

/-- A quorum of two to 25 distinct operators other than the account itself, all but one of whom have to
agree. -/
structure Quorum.Governs (q : Quorum) (t : PublicAccount) : Prop where
  nodup : q.cosignatories.Nodup
  not_target : t.key ∉ q.cosignatories
  two_le : 2 ≤ q.cosignatories.length
  le_max : q.cosignatories.length ≤ 25
  approval : q.approval = q.cosignatories.length - 1
  removal : q.removal = q.cosignatories.length - 1

/-- The record, if there is one, states a quorum that governs the account. -/
def Chain.Sound (s : Chain) (t : PublicAccount) : Prop :=
  ∀ q, s.quorum = some q → q.Governs t

namespace Chain.Sound

theorem nodup (h : s.Sound t) : s.operators.Nodup := by
  cases hq : s.quorum with
  | none =>
    rw [operators_of_none hq]
    exact List.nodup_nil
  | some q =>
    rw [operators_of_some hq]
    exact (h q hq).nodup

theorem not_target (h : s.Sound t) : t.key ∉ s.operators := by
  cases hq : s.quorum with
  | none =>
    rw [operators_of_none hq]
    exact List.not_mem_nil
  | some q =>
    rw [operators_of_some hq]
    exact (h q hq).not_target

theorem length_le (h : s.Sound t) : s.operators.length ≤ 25 := by
  cases hq : s.quorum with
  | none =>
    rw [operators_of_none hq]
    exact Nat.zero_le 25
  | some q =>
    rw [operators_of_some hq]
    exact (h q hq).le_max

theorem of_enrols {token : TokenIdentifier} {keys : List PublicKey} (h : s.Sound t)
    (enrols : a.Enrols t s token keys) : (a.outcome t s).Sound t := by
  rw [enrols.outcome]
  rintro _ ⟨⟩
  refine ⟨?_, ?_, enrols.two_le, enrols.le_max, rfl, rfl⟩
  · apply h.nodup.append enrols.nodup
    intro k hold hnew
    exact (enrols.new k hnew).1 hold
  · rintro hmem
    rcases List.mem_append.mp hmem with hold | hnew
    · exact h.not_target hold
    · exact (enrols.new _ hnew).2 rfl

theorem of_dismisses {token : TokenIdentifier} {key : PublicKey} (h : s.Sound t)
    (dismisses : a.Dismisses t s token key) : (a.outcome t s).Sound t := by
  have herase : s.operators.filter (· ≠ key) = s.operators.erase key := by
    rw [h.nodup.erase_eq_filter]
    simp only [ne_eq, decide_not]
    rfl
  have hlength : (s.operators.filter (· ≠ key)).length = s.operators.length - 1 := by
    rw [herase, List.length_erase_of_mem dismisses.listed]
  have hthree := dismisses.three_le
  have hmax := h.length_le
  rw [dismisses.outcome]
  rintro _ ⟨⟩
  refine ⟨h.nodup.filter _, ?_, ?_, ?_, ?_, ?_⟩
  · intro hmem
    exact h.not_target (List.mem_of_mem_filter hmem)
  all_goals
    simp only [hlength]
    omega

end Chain.Sound

/-- What every run keeps, whatever is attempted and by whom: each step starts from a sound chain, and an
attempt that is not refused leaves another. -/
theorem Run.sound (run : Run t past s) : s.Sound t := by
  induction run with
  | fresh =>
    rintro q ⟨⟩
  | step run a sees timely ih =>
    rcases Attempt.refused_or_enrols_or_dismisses sees timely with hnil | ⟨token, keys, enrols⟩ |
      ⟨token, key, dismisses⟩
    · unfold Attempt.outcome
      rw [hnil, Chain.performAll_nil]
      exact ih
    · exact ih.of_enrols enrols
    · exact ih.of_dismisses dismisses

/-- Every run can go on, with any command: there is a snapshot that holds the record of the chain. -/
theorem Run.exists_snapshot (run : Run t past s) :
    ∃ snapshot, ∀ command context, Attempt.Sees ⟨command, context, snapshot⟩ t s := by
  unfold Attempt.Sees
  cases hq : s.quorum with
  | none => exact ⟨.empty, fun _ _ => rfl⟩
  | some q =>
    obtain ⟨keys, approval, removal⟩ := q
    obtain ⟨-, -, htwo, hmax, happroval, hremoval⟩ := run.sound _ hq
    simp only at htwo hmax happroval hremoval
    have hthreshold : ((UInt8.ofNat (keys.length - 1)).toNat : Int) = keys.length - 1 := by
      rw [UInt8.toNat_ofNat', Nat.mod_eq_of_lt (by omega)]
      omega
    refine ⟨Snapshot.empty.withMultisig
      ⟨t.address, keys, .ofNat (keys.length - 1), .ofNat (keys.length - 1)⟩, fun _ _ => ?_⟩
    rw [Snapshot.multisig?_withMultisig, if_pos rfl, Option.map_some, Quorum.ofRecord, hthreshold, happroval,
      hremoval]

/-! ## Changes that are not refused any more -/

open OperatorChange

theorem Quorum.Governs.deltas_addition {m : Multisig} (h : (Quorum.ofRecord m).Governs t)
    (hroom : m.cosignatories.length + 1 ≤ 25) : Deltas m (m.cosignatories.length + 1) 1 1 := by
  have htwo : 2 ≤ m.cosignatories.length := h.two_le
  have happroval : (m.minApproval.toNat : Int) = m.cosignatories.length - 1 := h.approval
  have hremoval : (m.minRemoval.toNat : Int) = m.cosignatories.length - 1 := h.removal
  have hone : (1 : Int8).toInt = 1 := by decide
  refine ⟨by omega, by omega, ?_, ?_⟩
  · rw [happroval, hone]
    omega
  · rw [hremoval, hone]
    omega

theorem Quorum.Governs.deltas_removal {m : Multisig} (h : (Quorum.ofRecord m).Governs t)
    (hleft : 2 ≤ m.cosignatories.length - 1) : Deltas m (m.cosignatories.length - 1) (-1) (-1) := by
  have hmax : m.cosignatories.length ≤ 25 := h.le_max
  have happroval : (m.minApproval.toNat : Int) = m.cosignatories.length - 1 := h.approval
  have hremoval : (m.minRemoval.toNat : Int) = m.cosignatories.length - 1 := h.removal
  have hone : (-1 : Int8).toInt = -1 := by decide
  refine ⟨hleft, by omega, ?_, ?_⟩
  · rw [happroval, hone]
    omega
  · rw [hremoval, hone]
    omega

theorem Chain.Sound.ofRecord_governs (h : s.Sound t) (sees : a.Sees t s) {m : Multisig}
    (hgovernance : governance (a.invocation t) a.snapshot.reader = .ok m) : (Quorum.ofRecord m).Governs t :=
  h _ (Attempt.quorum_of_governance sees hgovernance)

theorem Chain.Sound.assembles (h : s.Sound t) (sees : a.Sees t s) (changes : a.command ≠ .createToken)
    (state : a.command.State)
    (hstate : a.command.synchronize (a.invocation t) a.snapshot.reader = .ok state) :
    ∃ transactions, a.command.assemble (a.invocation t) state = .ok transactions := by
  obtain ⟨command, context, snapshot⟩ := a
  -- The thresholds are one less than the operators, and move by one with them.
  cases command with
  | createToken => exact absurd rfl changes
  | addOperator =>
    obtain ⟨hgovernance, b, hread, hnew, hroom⟩ := synchronizeAddition_eq_ok.mp hstate
    have hdeltas := (h.ofRecord_governs sees hgovernance).deltas_addition hroom
    exact ⟨_, assembleAddition_eq_ok.mpr ⟨b, hread, 1, 1, hdeltas, rfl⟩⟩
  | removeOperator =>
    obtain ⟨hgovernance, b, hread, hlisted, hleft⟩ := synchronizeRemoval_eq_ok.mp hstate
    have hdeltas := (h.ofRecord_governs sees hgovernance).deltas_removal hleft
    exact ⟨_, assembleRemoval_eq_ok.mpr ⟨b, hread, -1, -1, hdeltas, rfl⟩⟩

/-! ## Changes that come to a result -/

theorem Attempt.exists_governance (sees : a.Sees t s) (hactor : a.context.actor.key ∈ s.operators) :
    ∃ m, governance (a.invocation t) a.snapshot.reader = .ok m ∧ s.operators = m.cosignatories := by
  unfold Attempt.Sees at sees
  unfold Chain.operators Chain.standing at hactor ⊢
  rw [← sees] at hactor ⊢
  cases hrecord : a.snapshot.multisig? t.address with
  | none =>
    rw [hrecord] at hactor
    cases hactor
  | some m =>
    rw [hrecord] at hactor
    have hlists : m.lists a.context.actor.key = true := List.contains_iff_mem.mpr hactor
    have hanswer : a.snapshot.reader.multisig? t.address = .ok (some m) := congrArg Except.ok hrecord
    exact ⟨m, governance_eq_ok.mpr ⟨hanswer, hlists⟩, rfl⟩

theorem Chain.Sound.enrols (h : s.Sound t) (sees : a.Sees t s) (adds : a.command = .addOperator)
    (hactor : a.context.actor.key ∈ s.operators) {b : Arguments}
    (hread : Arguments.read (a.invocation t) = .ok b)
    (hnew : b.operator.key ∉ s.operators) (hroom : s.operators.length + 1 ≤ 25) :
    a.Enrols t s b.identifier [b.operator.key] := by
  obtain ⟨m, hgovernance, hoperators⟩ := Attempt.exists_governance sees hactor
  rw [hoperators] at hnew hroom
  have hdeltas := (h.ofRecord_governs sees hgovernance).deltas_addition hroom
  exact Attempt.enrols_of_addition adds sees ⟨hgovernance, hread, hnew, hroom, hdeltas⟩

theorem Chain.Sound.dismisses (h : s.Sound t) (sees : a.Sees t s) (removes : a.command = .removeOperator)
    (hactor : a.context.actor.key ∈ s.operators) {b : Arguments}
    (hread : Arguments.read (a.invocation t) = .ok b)
    (hlisted : b.operator.key ∈ s.operators) (hleft : 3 ≤ s.operators.length) :
    a.Dismisses t s b.identifier b.operator.key := by
  obtain ⟨m, hgovernance, hoperators⟩ := Attempt.exists_governance sees hactor
  rw [hoperators] at hlisted hleft
  have hleft' : 2 ≤ m.cosignatories.length - 1 := by omega
  have hdeltas := (h.ofRecord_governs sees hgovernance).deltas_removal hleft'
  exact Attempt.dismisses_of_removal removes sees ⟨hgovernance, hread, hlisted, hleft', hdeltas⟩

/-! ## A sample -/

namespace Sample

/-- A change of the operator of some digits, attempted by the first operator. -/
def change (command : Command) (digits : String) (record : Multisig) : Attempt :=
  ⟨command, context (key 2) [("identifier", .string "gold"), ("operator", .string digits)],
    Snapshot.empty.withMultisig record⟩

/-- The token is created with three operators. -/
def founding : Attempt :=
  ⟨.createToken, creation.context, .empty⟩

def founded : Chain :=
  founding.outcome target .fresh

/-- The last operator is removed. -/
def departure : Attempt :=
  change .removeOperator fourth ⟨target.address, [key 2, key 3, key 4], 2, 2⟩

def departed : Chain :=
  departure.outcome target founded

/-- The operator that was removed is added again. -/
def readmission : Attempt :=
  change .addOperator fourth ⟨target.address, [key 2, key 3], 1, 1⟩

def readmitted : Chain :=
  readmission.outcome target departed

theorem founding_enrols : founding.Enrols target .fresh token [key 2, key 3, key 4] :=
  Attempt.enrols_of_creation (b := arguments) rfl rfl creation_reads

theorem founded_quorum : founded.quorum = some (.allButOne [key 2, key 3, key 4]) := by
  unfold founded
  rw [founding_enrols.outcome]
  rfl

theorem sees_change {command : Command} {digits : String} {record : Multisig}
    (haccount : record.account = target.address) (h : s.quorum = some (.ofRecord record)) :
    (change command digits record).Sees target s := by
  unfold Attempt.Sees change
  rw [Snapshot.multisig?_withMultisig, if_pos haccount.symm, h]
  rfl

theorem read_change (command : Command) (record : Multisig) :
    Arguments.read ((change command fourth record).invocation target) = .ok ⟨token, .ofKey (key 4)⟩ :=
  changing_read

theorem founding_run : Run target [⟨.fresh, founding⟩] founded :=
  .step .fresh founding rfl fun _ => rfl

theorem departure_sees : departure.Sees target founded :=
  sees_change rfl founded_quorum

theorem departure_dismisses : departure.Dismisses target founded token (key 4) := by
  apply founding_run.sound.dismisses departure_sees rfl (b := ⟨token, .ofKey (key 4)⟩) _ (read_change _ _)
  all_goals
    rw [Chain.operators_of_some founded_quorum]
    decide

theorem departed_quorum : departed.quorum = some (.allButOne [key 2, key 3]) := by
  unfold departed
  rw [departure_dismisses.outcome, Chain.operators_of_some founded_quorum]
  decide

/-- The steps up to the removal. -/
def departurePast : List Step :=
  [⟨founded, departure⟩, ⟨.fresh, founding⟩]

theorem departure_run : Run target departurePast departed :=
  founding_run.step departure departure_sees nofun

theorem readmission_sees : readmission.Sees target departed :=
  sees_change rfl departed_quorum

theorem readmission_enrols : readmission.Enrols target departed token [key 4] := by
  apply departure_run.sound.enrols readmission_sees rfl (b := ⟨token, .ofKey (key 4)⟩) _ (read_change _ _)
  all_goals
    rw [Chain.operators_of_some departed_quorum]
    decide

theorem readmitted_quorum : readmitted.quorum = some (.allButOne [key 2, key 3, key 4]) := by
  unfold readmitted
  rw [readmission_enrols.outcome, Chain.operators_of_some departed_quorum]
  rfl

theorem readmission_run : Run target (⟨departed, readmission⟩ :: departurePast) readmitted :=
  departure_run.step readmission readmission_sees nofun

end Sample

/-! ## The result -/

/-- Along every run the record states a governing quorum, and no change that the ledger lets through is
refused when it is assembled. -/
theorem Run.governs (run : Run t past s) : (∀ q, s.quorum = some q → q.Governs t) ∧
    ∀ a : Attempt, a.Sees t s → a.command ≠ .createToken → ∀ state,
      a.command.synchronize (a.invocation t) a.snapshot.reader = .ok state →
      ∃ transactions, a.command.assemble (a.invocation t) state = .ok transactions := by
  constructor
  · exact run.sound
  · intro a sees changes state hstate
    exact run.sound.assembles sees changes state hstate

open Sample in
theorem Run.governs_readmitted : ∃ q, readmitted.quorum = some q ∧ q.Governs target := by
  obtain ⟨hgoverns, -⟩ := Run.governs readmission_run
  exact ⟨_, readmitted_quorum, hgoverns _ readmitted_quorum⟩

end TokenGovernance
