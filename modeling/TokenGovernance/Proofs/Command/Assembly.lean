import TokenGovernance.Proofs.Command.Verdict

/-! # What an assembly comes to

An assembly is given its record and need not have read it from a ledger. It makes do with any: with a record
that lists nobody, and with one that lists more than any ledger would. Of the arguments it asks what the
validation asks, so that it refuses nothing in them that the validation let pass.
-/

namespace TokenGovernance

open Outcome

namespace OperatorChange

variable {i : Invocation} {m : Multisig} {a : Arguments} {k : Kind} {refusal : Refusal}

/-- The assembly of a change against a record. -/
def Kind.assemble (k : Kind) (i : Invocation) (m : Multisig) : Except Refusal (List InnerTransaction) :=
  match k with
  | add => Command.addOperator.assemble i m
  | remove => Command.removeOperator.assemble i m

/-! ## The arguments -/

theorem Kind.validate_eq (given : k.command.requireArguments i = .ok ()) :
    k.command.validate i = Arguments.read i >>= fun _ => pure () := by
  cases k with
  | add =>
    unfold Command.validate
    rw [given, ok_bind]
    rfl
  | remove =>
    unfold Command.validate
    rw [given, ok_bind]
    rfl

theorem Kind.read_eq_error_of_validate (given : k.command.requireArguments i = .ok ())
    (h : k.command.validate i = .error refusal) : Arguments.read i = .error refusal := by
  rw [validate_eq given] at h
  obtain hread | ⟨a, -, hpure⟩ := bind_eq_error.mp h
  · exact hread
  · cases hpure

theorem Kind.assemble_of_read_error (h : Arguments.read i = .error refusal) :
    k.assemble i m = .error refusal := by
  cases k with
  | add =>
    change assembleAddition i m = _
    unfold assembleAddition
    rw [h, error_bind]
  | remove =>
    change assembleRemoval i m = _
    unfold assembleRemoval
    rw [h, error_bind]

/-! ## The record -/

/-- A signed byte holds what takes a threshold to that of `count` operators. -/
def Reachable (current : UInt8) (count : Nat) : Prop :=
  -128 ≤ (count : Int) - 1 - current.toNat ∧ (count : Int) - 1 - current.toNat ≤ 127

instance (current : UInt8) (count : Nat) : Decidable (Reachable current count) :=
  inferInstanceAs (Decidable (_ ∧ _))

theorem exists_int8 {d : Int} : (∃ x : Int8, x.toInt = d) ↔ -128 ≤ d ∧ d ≤ 127 := by
  constructor
  · rintro ⟨x, rfl⟩
    have hlow := x.le_toInt
    have hhigh := x.toInt_lt
    omega
  · rintro ⟨hlow, hhigh⟩
    exact ⟨.ofInt d, Int8.toInt_ofInt_of_le (by omega) (by omega)⟩

theorem exists_deltas_iff {count : Nat} :
    (∃ approval removal, Deltas m count approval removal) ↔
      2 ≤ count ∧ count ≤ 256 ∧ Reachable m.minApproval count ∧ Reachable m.minRemoval count := by
  constructor
  · rintro ⟨approval, removal, h⟩
    have happroval := h.approval_eq
    have hremoval := h.removal_eq
    exact ⟨h.two_le, h.le_max, exists_int8.mp ⟨approval, by omega⟩, exists_int8.mp ⟨removal, by omega⟩⟩
  · rintro ⟨htwo, hmax, happroval, hremoval⟩
    obtain ⟨approval, happroval⟩ := exists_int8.mpr happroval
    obtain ⟨removal, hremoval⟩ := exists_int8.mpr hremoval
    exact ⟨approval, removal, htwo, hmax, by omega, by omega⟩

theorem Kind.assemble_eq_ok {transactions : List InnerTransaction} :
    k.assemble i m = .ok transactions ↔ ∃ a, Arguments.read i = .ok a ∧ ∃ approval removal,
      Deltas m (k.count m.cosignatories.length) approval removal ∧
        transactions = k.emission i a approval removal := by
  cases k with
  | add => exact assembleAddition_eq_ok
  | remove => exact assembleRemoval_eq_ok

/-- What may be wrong with the number of operators that a change makes, and with the thresholds of the
record. -/
def boundObjections (m : Multisig) (count : Nat) : List Objection :=
  [⟨count < 2, .tooFewOperators count⟩, ⟨256 < count, .invalidArgument "operators" .thresholdRange⟩,
    deltaObjection m.minApproval count, deltaObjection m.minRemoval count]

theorem transactions_eq_settle (action : String) (count : Nat) (additions deletions : List PublicKey)
    (role : InnerTransaction) :
    transactions i a action m count additions deletions role =
      settle (boundObjections m count)
        [i.proofOfIntent action a.identifier, i.byTarget (.multisig ⟨.ofInt (Threshold.step m.minApproval count),
          .ofInt (Threshold.step m.minRemoval count), additions, deletions⟩), role] := by
  unfold boundObjections
  rw [settle_cons]
  by_cases h : count < 2
  · rw [if_pos h]
    unfold transactions
    rw [Threshold.delta_of_lt_two h, error_bind]
  · rw [if_neg h, transactions_of_two_le (by omega)]

theorem Kind.assemble_of_read (k : Kind) (hread : Arguments.read i = .ok a) (m : Multisig) :
    k.assemble i m =
      let count := k.count m.cosignatories.length
      settle (boundObjections m count) (k.emission i a (.ofInt (Threshold.step m.minApproval count))
        (.ofInt (Threshold.step m.minRemoval count))) := by
  cases k with
  | add =>
    change assembleAddition i m = _
    unfold assembleAddition
    rw [hread, ok_bind, transactions_eq_settle]
    rfl
  | remove =>
    change assembleRemoval i m = _
    unfold assembleRemoval
    rw [hread, ok_bind, transactions_eq_settle]
    rfl

theorem step_out_of_range_iff {current : UInt8} {count : Nat} :
    (Threshold.step current count < -128 ∨ 127 < Threshold.step current count) ↔ ¬ Reachable current count := by
  unfold Reachable Threshold.step
  omega

theorem exists_settle_deltaObjection {α : Type} {count : Nat} (result : α)
    (h : ¬ (Reachable m.minApproval count ∧ Reachable m.minRemoval count)) :
    ∃ delta, settle [deltaObjection m.minApproval count, deltaObjection m.minRemoval count] result =
      .error (.failed (.thresholdDelta delta)) := by
  unfold deltaObjection
  rw [settle_cons, settle_cons]
  by_cases happroval : Reachable m.minApproval count
  · have hremoval : ¬ Reachable m.minRemoval count := fun hremoval => h ⟨happroval, hremoval⟩
    rw [if_neg (fun hstep => step_out_of_range_iff.mp hstep happroval),
      if_pos (step_out_of_range_iff.mpr hremoval)]
    exact ⟨_, rfl⟩
  · rw [if_pos (step_out_of_range_iff.mpr happroval)]
    exact ⟨_, rfl⟩

/-- What an assembly comes to for a change that makes `count` operators of a record: the transactions with
thresholds of all but one, or a refusal that says which bound is broken. -/
structure Kind.Assembles (k : Kind) (i : Invocation) (m : Multisig) (count : Nat) : Prop where
  succeeds : (∃ transactions, k.assemble i m = .ok transactions) ↔
    2 ≤ count ∧ count ≤ 256 ∧ Reachable m.minApproval count ∧ Reachable m.minRemoval count
  exact : ∀ transactions, k.assemble i m = .ok transactions → ∃ a approval removal,
    transactions = k.emission i a approval removal ∧
      (m.minApproval.toNat : Int) + approval.toInt = (count : Int) - 1 ∧
      (m.minRemoval.toNat : Int) + removal.toInt = (count : Int) - 1
  too_few : count < 2 → k.assemble i m = .error (.tooFewOperators count)
  too_many : 256 < count → k.assemble i m = .error (.invalidArgument "operators" .thresholdRange)
  out_of_reach : 2 ≤ count → count ≤ 256 → ¬ (Reachable m.minApproval count ∧ Reachable m.minRemoval count) →
    ∃ delta, k.assemble i m = .error (.failed (.thresholdDelta delta))

theorem Kind.assembles_of_validate (valid : k.command.validate i = .ok ()) (m : Multisig) :
    k.Assembles i m (k.count m.cosignatories.length) := by
  obtain ⟨a, hread⟩ := k.validate_eq_ok.mp valid
  have houtcome := k.assemble_of_read hread m
  -- The first objection that stands decides: too few operators, too many, then either threshold.
  unfold boundObjections at houtcome
  refine ⟨?_, ?_, ?_, ?_, ?_⟩
  · rw [← exists_deltas_iff]
    constructor
    · rintro ⟨transactions, h⟩
      obtain ⟨-, -, approval, removal, hdeltas, -⟩ := assemble_eq_ok.mp h
      exact ⟨approval, removal, hdeltas⟩
    · rintro ⟨approval, removal, hdeltas⟩
      exact ⟨_, assemble_eq_ok.mpr ⟨a, hread, approval, removal, hdeltas, rfl⟩⟩
  · intro transactions h
    obtain ⟨a, -, approval, removal, hdeltas, htransactions⟩ := assemble_eq_ok.mp h
    exact ⟨a, approval, removal, htransactions, hdeltas.approval_eq, hdeltas.removal_eq⟩
  · intro hfew
    rw [houtcome, settle_cons, if_pos hfew]
  · intro hmany
    rw [houtcome, settle_cons, if_neg (by omega), settle_cons, if_pos hmany]
  · intro htwo hmax hreach
    rw [houtcome, settle_cons, if_neg (by omega), settle_cons, if_neg (by omega)]
    exact exists_settle_deltaObjection _ hreach

end OperatorChange

/-! ## Creations -/

namespace CreateToken

variable {i : Invocation}

theorem exists_reads_of_assemble {transactions : List InnerTransaction} (h : assemble i = .ok transactions) :
    ∃ a : Arguments, a.Reads i := by
  unfold assemble at h
  obtain ⟨a, hread, -⟩ := bind_eq_ok.mp h
  exact ⟨a, Arguments.read_eq_ok.mp hread⟩

theorem exists_issuance_of_assemble {transactions : List InnerTransaction}
    (h : assemble i = .ok transactions) : ∃ (a : Arguments) (approvals : Int8),
      transactions = issuance i a approvals ∧ approvals.toInt = (a.operators.length : Int) - 1 := by
  obtain ⟨a, hreads⟩ := exists_reads_of_assemble h
  obtain ⟨approvals, happrovals, hassemble⟩ := assemble_of_reads hreads
  exact ⟨a, approvals, Except.ok.inj (h.symm.trans hassemble), happrovals⟩

theorem exists_assemble_iff_validate :
    (∃ transactions, assemble i = .ok transactions) ↔ Command.createToken.validate i = .ok () := by
  rw [validate_eq_ok]
  constructor
  · rintro ⟨transactions, h⟩
    exact exists_reads_of_assemble h
  · rintro ⟨a, hreads⟩
    obtain ⟨approvals, -, hassemble⟩ := assemble_of_reads hreads
    exact ⟨_, hassemble⟩

theorem assemble_of_validate_error {refusal : Refusal}
    (given : Command.createToken.requireArguments i = .ok ())
    (h : Command.createToken.validate i = .error refusal) : assemble i = .error refusal := by
  unfold Command.validate at h
  rw [given, ok_bind] at h
  obtain hread | ⟨a, -, hpure⟩ := bind_eq_error.mp h
  · unfold assemble
    rw [hread, error_bind]
  · cases hpure

end CreateToken

/-! ## Every command -/

open OperatorChange in
/-- No assembly refuses arguments that were validated, or refuses them for another reason. A creation then
succeeds; a change does when the bounds hold for the record, whatever the record is. -/
theorem Command.assemble_all_or_nothing (i : Invocation) :
    ((∃ transactions, Command.createToken.assemble i () = .ok transactions) ↔
      Command.createToken.validate i = .ok ()) ∧
    (Command.createToken.requireArguments i = .ok () → ∀ refusal,
      Command.createToken.validate i = .error refusal → Command.createToken.assemble i () = .error refusal) ∧
    (∀ transactions, Command.createToken.assemble i () = .ok transactions → ∃ a approvals,
      transactions = CreateToken.issuance i a approvals ∧ approvals.toInt = (a.operators.length : Int) - 1) ∧
    ∀ (k : Kind) (m : Multisig),
      (k.command.requireArguments i = .ok () → ∀ refusal,
        k.command.validate i = .error refusal → k.assemble i m = .error refusal) ∧
      (k.command.validate i = .ok () → k.Assembles i m (k.count m.cosignatories.length)) := by
  refine ⟨CreateToken.exists_assemble_iff_validate, ?_, ?_, ?_⟩
  · intro given refusal h
    exact CreateToken.assemble_of_validate_error given h
  · intro transactions h
    exact CreateToken.exists_issuance_of_assemble h
  · intro k m
    constructor
    · intro given refusal h
      exact Kind.assemble_of_read_error (Kind.read_eq_error_of_validate given h)
    · intro valid
      exact Kind.assembles_of_validate valid m

/-! ## A sample -/

namespace Sample

/-- A change of operators that names the governed account. -/
def selfish : Invocation :=
  ⟨naming (key 2) "0909090909090909090909090909090909090909090909090909090909090909", target⟩

theorem selfish_given : Command.addOperator.requireArguments selfish = .ok () := by
  decide +kernel

theorem selfish_invalid :
    Command.addOperator.validate selfish = .error (.invalidArgument "operator" .selfCosigning) := by
  decide +kernel

end Sample

open Sample OperatorChange in
/-- Two hundred operators that no reading of a ledger would let pass get one more; an empty record does not get
its first. -/
theorem Command.assemble_beyond_ledgers :
    Kind.add.assemble selfish ⟨target.address, [], 0, 0⟩ = .error (.invalidArgument "operator" .selfCosigning) ∧
    Kind.add.assemble changing ⟨target.address, [], 0, 0⟩ = .error (.tooFewOperators 1) ∧
    ∃ transactions,
      Kind.add.assemble changing ⟨target.address, List.replicate 200 (key 3), 73, 255⟩ = .ok transactions := by
  obtain ⟨-, -, -, hselfish⟩ := assemble_all_or_nothing selfish
  obtain ⟨-, -, -, hchanging⟩ := assemble_all_or_nothing changing
  have valid : Command.addOperator.validate changing = .ok () :=
    validate_addOperator_eq_ok.mpr ⟨_, changing_read⟩
  refine ⟨?_, ?_, ?_⟩
  · obtain ⟨hrefused, -⟩ := hselfish .add ⟨target.address, [], 0, 0⟩
    exact hrefused selfish_given _ selfish_invalid
  · obtain ⟨-, hassembles⟩ := hchanging .add ⟨target.address, [], 0, 0⟩
    exact (hassembles valid).too_few (by decide)
  · obtain ⟨-, hassembles⟩ := hchanging .add ⟨target.address, List.replicate 200 (key 3), 73, 255⟩
    have hcount : Kind.add.count (List.replicate 200 (key 3)).length = 201 := by
      rw [List.length_replicate]
      rfl
    have hsucceeds := (hassembles valid).succeeds
    rw [hcount] at hsucceeds
    exact hsucceeds.mpr ⟨by decide, by decide, by decide, by decide⟩

end TokenGovernance
