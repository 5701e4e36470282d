import TokenGovernance.Proofs.Command.Change
import TokenGovernance.Proofs.Command.Creation

/-! # What a change of operators comes to

Every outcome of a change in one table. The phases read the arguments again and again and meet their
conditions in different places; what comes of it is the first objection that stands, or else the transactions
of the change. Whether the actor may see the record is decided before anything else about it.
-/

namespace TokenGovernance
namespace OperatorChange

open Outcome

variable {α : Type} {i : Invocation} {ledger : LedgerReader} {m : Multisig} {a : Arguments}

/-! ## Objections -/

/-- A refusal, and whether there is a reason for it. -/
structure Objection where
  stands : Bool
  refusal : Refusal

/-- The result, unless an objection stands. The first that does decides. -/
def settle (objections : List Objection) (result : α) : Except Refusal α :=
  match objections.find? (·.stands) with
  | some objection => .error objection.refusal
  | none => .ok result

theorem settle_nil (result : α) : settle [] result = .ok result := rfl

theorem settle_cons (p : Prop) [Decidable p] (refusal : Refusal) (rest : List Objection) (result : α) :
    settle (⟨p, refusal⟩ :: rest) result = if p then .error refusal else settle rest result := by
  unfold settle
  by_cases h : p
  · simp [h]
  · simp [h]

/-! ## The table -/

/-- The two changes of operators. -/
inductive Kind
  | add
  | remove
  deriving DecidableEq

def Kind.command : Kind → Command
  | add => .addOperator
  | remove => .removeOperator

/-- How many operators a change makes of `n`. -/
def Kind.count : Kind → Nat → Nat
  | add, n => n + 1
  | remove, n => n - 1

def Kind.rosterObjections (k : Kind) (o : Operator) (m : Multisig) : List Objection :=
  match k with
  | add => [
      ⟨o.key ∈ m.cosignatories, .invalidArgument "operator" (.alreadyOperator o.key)⟩,
      ⟨25 ≤ m.cosignatories.length, .invalidArgument "operator" .operatorsFull⟩]
  | remove => [
      ⟨o.key ∉ m.cosignatories, .invalidArgument "operator" (.notOperator o.key)⟩,
      ⟨m.cosignatories.length < 3, .tooFewOperators (m.cosignatories.length - 1)⟩,
      ⟨257 < m.cosignatories.length, .invalidArgument "operators" .thresholdRange⟩]

/-- Thresholds can only be moved by what a signed byte holds. -/
def deltaObjection (current : UInt8) (count : Nat) : Objection :=
  ⟨Threshold.step current count < -128 ∨ 127 < Threshold.step current count,
    .failed (.thresholdDelta (Threshold.step current count))⟩

def Kind.objections (k : Kind) (i : Invocation) (o : Operator) (m : Multisig) : List Objection :=
  let count := k.count m.cosignatories.length
  ⟨i.context.actor.key ∉ m.cosignatories, .forbidden i.context.actor.address i.target.address⟩ ::
    k.rosterObjections o m ++ [deltaObjection m.minApproval count, deltaObjection m.minRemoval count]

def Kind.action : Kind → String
  | add => "add-operator"
  | remove => "remove-operator"

def Kind.change (k : Kind) (key : PublicKey) (approval removal : Int8) : MultisigChange :=
  match k with
  | add => ⟨approval, removal, [key], []⟩
  | remove => ⟨approval, removal, [], [key]⟩

@[simp] theorem Kind.approvalDelta_change (k : Kind) (key : PublicKey) (approval removal : Int8) :
    (k.change key approval removal).approvalDelta = approval := by
  cases k with
  | add => rfl
  | remove => rfl

@[simp] theorem Kind.removalDelta_change (k : Kind) (key : PublicKey) (approval removal : Int8) :
    (k.change key approval removal).removalDelta = removal := by
  cases k with
  | add => rfl
  | remove => rfl

/-- A new operator signs its own role; the governed account signs the role of one that leaves. -/
def Kind.assignment (k : Kind) (i : Invocation) (a : Arguments) : InnerTransaction :=
  match k with
  | add => i.byOperator a.operator (i.assignment a.identifier a.operator none .operator)
  | remove => i.byTarget (i.assignment a.identifier a.operator (some .operator) .guest)

def Kind.emission (k : Kind) (i : Invocation) (a : Arguments) (approval removal : Int8) :
    List InnerTransaction :=
  [i.proofOfIntent k.action a.identifier, i.byTarget (.multisig (k.change a.operator.key approval removal)),
    k.assignment i a]

/-- Why a change fails for an account without a record, given whether the account exists. -/
def absence (address : Address) : Except LedgerFault Bool → Failure
  | .error fault => .ledger fault
  | .ok true => .notTokenAccount address
  | .ok false => .unknownAccount address

/-- What a change whose arguments are accepted comes to. -/
def Kind.verdict (k : Kind) (i : Invocation) (a : Arguments) (ledger : LedgerReader) :
    Except Refusal (List InnerTransaction) :=
  match ledger.multisig? i.target.address with
  | .error fault => .error (.failed (.ledger fault))
  | .ok none => .error (.failed (absence i.target.address (ledger.accountExists i.target.address)))
  | .ok (some m) =>
    let count := k.count m.cosignatories.length
    settle (k.objections i a.operator m) (k.emission i a (.ofInt (Threshold.step m.minApproval count))
      (.ofInt (Threshold.step m.minRemoval count)))

theorem Kind.verdict_of_record {k : Kind} (h : ledger.multisig? i.target.address = .ok (some m)) :
    k.verdict i a ledger =
      let count := k.count m.cosignatories.length
      settle (k.objections i a.operator m) (k.emission i a (.ofInt (Threshold.step m.minApproval count))
        (.ofInt (Threshold.step m.minRemoval count))) := by
  unfold verdict
  rw [h]

/-! ## The phases -/

theorem lists_iff {key : PublicKey} : m.lists key = true ↔ key ∈ m.cosignatories :=
  List.contains_iff_mem

theorem governance_of_fault {fault : LedgerFault} (h : ledger.multisig? i.target.address = .error fault) :
    governance i ledger = .error (.failed (.ledger fault)) := by
  unfold governance
  rw [h]
  rfl

theorem governance_of_absence (h : ledger.multisig? i.target.address = .ok none) :
    governance i ledger =
      .error (.failed (absence i.target.address (ledger.accountExists i.target.address))) := by
  unfold governance
  rw [h]
  cases hexists : ledger.accountExists i.target.address with
  | error fault =>
    simp only [ask]
    rfl
  | ok found =>
    simp only [ask]
    cases found with
    | false => rfl
    | true => rfl

theorem governance_of_record (h : ledger.multisig? i.target.address = .ok (some m)) :
    governance i ledger =
      if i.context.actor.key ∉ m.cosignatories then
        .error (.forbidden i.context.actor.address i.target.address)
      else .ok m := by
  unfold governance
  rw [h]
  by_cases hactor : i.context.actor.key ∈ m.cosignatories
  · simp [ask, Except.mapError, lists_iff, hactor]
  · simp [ask, Except.mapError, lists_iff, hactor]

theorem governance_eq_ok_of_record (h : ledger.multisig? i.target.address = .ok (some m)) {m' : Multisig} :
    governance i ledger = .ok m' ↔ m = m' ∧ i.context.actor.key ∈ m.cosignatories := by
  rw [governance_of_record h, refuse_eq_ok, not_not, Except.ok.injEq, and_comm]

theorem transactions_of_two_le {count : Nat} (h : 2 ≤ count) (action : String)
    (additions deletions : List PublicKey) (role : InnerTransaction) :
    transactions i a action m count additions deletions role =
      settle [⟨256 < count, .invalidArgument "operators" .thresholdRange⟩, deltaObjection m.minApproval count,
          deltaObjection m.minRemoval count]
        [i.proofOfIntent action a.identifier, i.byTarget (.multisig ⟨.ofInt (Threshold.step m.minApproval count),
          .ofInt (Threshold.step m.minRemoval count), additions, deletions⟩), role] := by
  unfold transactions deltaObjection
  simp only [settle_cons, settle_nil, Threshold.delta_of_two_le h, refuse_bind, ok_bind, pure_eq]
  by_cases hmax : 256 < count
  · rw [if_pos hmax, if_pos hmax]
  · simp only [if_neg hmax]

/-! ## The outcome -/

theorem Kind.validate_eq_ok (k : Kind) : k.command.validate i = .ok () ↔ ∃ a, Arguments.read i = .ok a := by
  cases k with
  | add => exact validate_addOperator_eq_ok
  | remove => exact validate_removeOperator_eq_ok

theorem Kind.execute_of_validate_error {k : Kind} {refusal : Refusal}
    (h : k.command.validate i = .error refusal) (ledger : LedgerReader) :
    k.command.execute i ledger = .error refusal := by
  unfold Command.execute
  rw [h, error_bind]

theorem Kind.execute_of_governance_error {k : Kind} {refusal : Refusal}
    (valid : k.command.validate i = .ok ()) (h : governance i ledger = .error refusal) :
    k.command.execute i ledger = .error refusal := by
  cases k with
  | add =>
    have hstate : synchronizeAddition i ledger = .error refusal := by
      unfold synchronizeAddition
      rw [h, error_bind]
    unfold Kind.command at valid ⊢
    rw [execute_addOperator, valid, ok_bind, hstate, error_bind]
  | remove =>
    have hstate : synchronizeRemoval i ledger = .error refusal := by
      unfold synchronizeRemoval
      rw [h, error_bind]
    unfold Kind.command at valid ⊢
    rw [execute_removeOperator, valid, ok_bind, hstate, error_bind]

theorem execute_addOperator_of_record (hread : Arguments.read i = .ok a)
    (h : ledger.multisig? i.target.address = .ok (some m)) :
    Command.addOperator.execute i ledger = Kind.add.verdict i a ledger := by
  have hvalid := validate_addOperator_eq_ok.mpr ⟨a, hread⟩
  rw [execute_addOperator, hvalid, ok_bind, Kind.verdict_of_record h]
  unfold synchronizeAddition assembleAddition Kind.objections Kind.rosterObjections
  simp only [governance_of_record h, hread, throw_eq, error_bind, pure_eq, refuse_bind, ok_bind,
    List.cons_append, List.nil_append, settle_cons, lists_iff]
  by_cases hactor : i.context.actor.key ∉ m.cosignatories
  · rw [if_pos hactor, if_pos hactor]
  · rw [if_neg hactor, if_neg hactor]
    -- The actor is one of the operators, so that with the new one there are at least two.
    have hpos := List.length_pos_of_mem (not_not.mp hactor)
    have hfull : Limits.maximumOperators < m.cosignatories.length + 1 ↔ 25 ≤ m.cosignatories.length := by
      unfold Limits.maximumOperators
      omega
    rw [transactions_of_two_le (by omega), settle_cons]
    simp only [hfull]
    split
    · rfl
    · split
      · rfl
      · rw [if_neg (by omega)]
        rfl

theorem execute_removeOperator_of_record (hread : Arguments.read i = .ok a)
    (h : ledger.multisig? i.target.address = .ok (some m)) :
    Command.removeOperator.execute i ledger = Kind.remove.verdict i a ledger := by
  have hvalid := validate_removeOperator_eq_ok.mpr ⟨a, hread⟩
  rw [execute_removeOperator, hvalid, ok_bind, Kind.verdict_of_record h]
  unfold synchronizeRemoval assembleRemoval Kind.objections Kind.rosterObjections
  simp only [governance_of_record h, hread, throw_eq, error_bind, pure_eq, refuse_bind, ok_bind,
    List.cons_append, List.nil_append, settle_cons, Bool.not_eq_true', ← Bool.not_eq_true, lists_iff]
  have hfew : m.cosignatories.length - 1 < Limits.minimumOperators ↔ m.cosignatories.length < 3 := by
    unfold Limits.minimumOperators
    omega
  have hmany : 256 < m.cosignatories.length - 1 ↔ 257 < m.cosignatories.length := by omega
  simp only [hfew]
  split
  · rfl
  · split
    · rfl
    · split
      · rfl
      · rw [transactions_of_two_le (by omega), settle_cons]
        simp only [hmany]
        rfl

theorem Kind.execute_of_read (k : Kind) (hread : Arguments.read i = .ok a) (ledger : LedgerReader) :
    k.command.execute i ledger = k.verdict i a ledger := by
  have hvalid := k.validate_eq_ok.mpr ⟨a, hread⟩
  cases h : ledger.multisig? i.target.address with
  | error fault =>
    rw [execute_of_governance_error hvalid (governance_of_fault h)]
    unfold verdict
    rw [h]
  | ok record =>
    cases record with
    | none =>
      rw [execute_of_governance_error hvalid (governance_of_absence h)]
      unfold verdict
      rw [h]
    | some m =>
      cases k with
      | add => exact execute_addOperator_of_record hread h
      | remove => exact execute_removeOperator_of_record hread h

/-- A change that is not valid is refused as its validation says, whatever the ledger holds. Any other comes
to its verdict. -/
theorem Kind.execute_eq_verdict (k : Kind) (i : Invocation) :
    (∀ refusal, k.command.validate i = .error refusal →
      ∀ ledger, k.command.execute i ledger = .error refusal) ∧
    (k.command.validate i = .ok () → ∃ a, Arguments.read i = .ok a ∧
      ∀ ledger, k.command.execute i ledger = k.verdict i a ledger) := by
  constructor
  · intro refusal hrefusal ledger
    exact execute_of_validate_error hrefusal ledger
  · intro hvalid
    obtain ⟨a, hread⟩ := k.validate_eq_ok.mp hvalid
    exact ⟨a, hread, k.execute_of_read hread⟩

end OperatorChange

/-! ## A sample -/

namespace Sample

/-- A change of the operator that digits spell. -/
def naming (actor : PublicKey) (digits : String) : Context :=
  context actor [("identifier", .string "gold"), ("operator", .string digits)]

theorem read_naming {actor operator : PublicKey} {digits : String}
    (hdigits : (naming actor digits).get Wire.decoder "operator" none = .ok (some (Operator.ofKey operator)))
    (hself : operator ≠ target.key) :
    OperatorChange.Arguments.read ⟨naming actor digits, target⟩ = .ok ⟨token, .ofKey operator⟩ := by
  refine OperatorChange.Arguments.read_eq_ok.mpr ⟨?_, ?_⟩
  · exact Invocation.identifier_eq_ok.mpr ⟨"gold", .digest "gold", rfl, rfl, rfl⟩
  · exact Invocation.operator_eq_ok.mpr ⟨hdigits, rfl, hself⟩

/-- A change of the last operator by the first. -/
def changing : Invocation :=
  ⟨naming (key 2) fourth, target⟩

theorem changing_read : OperatorChange.Arguments.read changing = .ok ⟨token, .ofKey (key 4)⟩ :=
  read_naming rfl (by decide)

/-- A ledger with a record of any account, which knows nothing else. -/
def recording (m : Multisig) : LedgerReader :=
  ⟨fun _ => .error (.unavailable "no accounts"), fun _ => .ok (some m)⟩

end Sample

open Sample in
/-- One threshold of the record can be moved and the other cannot. -/
theorem OperatorChange.Kind.execute_threshold_out_of_reach :
    Command.addOperator.validate changing = .ok () ∧
      Command.addOperator.execute changing (recording ⟨target.address, [key 2, key 3], 1, 255⟩) =
        .error (.failed (.thresholdDelta (-253))) := by
  have hvalid : Command.addOperator.validate changing = .ok () :=
    validate_addOperator_eq_ok.mpr ⟨_, changing_read⟩
  obtain ⟨-, hverdict⟩ := Kind.execute_eq_verdict .add changing
  obtain ⟨a, hread, hexecute⟩ := hverdict hvalid
  obtain rfl := Except.ok.inj (hread.symm.trans changing_read)
  refine ⟨hvalid, ?_⟩
  rw [show Command.addOperator = Kind.add.command from rfl, hexecute]
  rfl

end TokenGovernance
