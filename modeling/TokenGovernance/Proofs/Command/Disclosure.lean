import TokenGovernance.Proofs.Command.Verdict

/-! # What a change of operators gives away

Pairs of runs. An actor that is not listed gets the same refusal whatever the record says. For one that is,
the outcome depends on the record only through the number of operators, the thresholds, and whether the actor
and the operator are listed, and not at all on which of the operators acts.
-/

namespace TokenGovernance

/-- The invocation made by another actor. -/
def Invocation.withActor (i : Invocation) (actor : PublicAccount) : Invocation :=
  { i with context := { i.context with actor } }

namespace OperatorChange

variable {i : Invocation} {ledger ledger' : LedgerReader} {m m' : Multisig} {a : Arguments} {k : Kind}

/-- Two records that an invocation cannot tell apart. -/
structure Alike (i : Invocation) (m m' : Multisig) : Prop where
  count : m.cosignatories.length = m'.cosignatories.length
  approval : m.minApproval = m'.minApproval
  removal : m.minRemoval = m'.minRemoval
  actor : m.lists i.context.actor.key = m'.lists i.context.actor.key
  operator : ∀ o, i.operator = .ok o → m.lists o.key = m'.lists o.key

theorem mem_congr {key : PublicKey} (h : m.lists key = m'.lists key) :
    key ∈ m.cosignatories ↔ key ∈ m'.cosignatories := by
  rw [← lists_iff, h, lists_iff]

theorem Alike.objections_eq (h : Alike i m m') (hread : Arguments.read i = .ok a) (k : Kind) :
    k.objections i a.operator m = k.objections i a.operator m' := by
  obtain ⟨-, hoperator⟩ := Arguments.read_eq_ok.mp hread
  have hactor := mem_congr h.actor
  have hlisted := mem_congr (h.operator _ hoperator)
  unfold Kind.objections Kind.rosterObjections
  simp only [h.count, h.approval, h.removal, hactor, hlisted]

theorem Alike.verdict_eq (h : Alike i m m') (hread : Arguments.read i = .ok a)
    (hm : ledger.multisig? i.target.address = .ok (some m))
    (hm' : ledger'.multisig? i.target.address = .ok (some m')) (k : Kind) :
    k.verdict i a ledger = k.verdict i a ledger' := by
  rw [Kind.verdict_of_record hm, Kind.verdict_of_record hm']
  simp only [h.objections_eq hread, h.count, h.approval, h.removal]

theorem Kind.execute_congr
    (h : ∀ a, Arguments.read i = .ok a → k.verdict i a ledger = k.verdict i a ledger') :
    k.command.execute i ledger = k.command.execute i ledger' := by
  cases hvalid : k.command.validate i with
  | error refusal => rw [execute_of_validate_error hvalid, execute_of_validate_error hvalid]
  | ok _ =>
    obtain ⟨a, hread⟩ := k.validate_eq_ok.mp hvalid
    rw [k.execute_of_read hread, k.execute_of_read hread, h a hread]

theorem Kind.verdict_of_stranger (hm : ledger.multisig? i.target.address = .ok (some m))
    (hactor : m.lists i.context.actor.key = false) :
    k.verdict i a ledger = .error (.forbidden i.context.actor.address i.target.address) := by
  have hstranger : i.context.actor.key ∉ m.cosignatories := by
    rw [← lists_iff, hactor]
    exact Bool.false_ne_true
  rw [verdict_of_record hm]
  unfold objections
  simp only [List.cons_append, settle_cons]
  rw [if_pos hstranger]

/-- The refusal of an actor that is not listed, which does not speak of the record. -/
theorem Kind.exists_refusal_of_stranger (k : Kind) (i : Invocation) :
    ∃ refusal, ∀ ledger m, ledger.multisig? i.target.address = .ok (some m) →
      m.lists i.context.actor.key = false → k.command.execute i ledger = .error refusal := by
  cases hvalid : k.command.validate i with
  | error refusal => exact ⟨refusal, fun ledger _ _ _ => execute_of_validate_error hvalid ledger⟩
  | ok _ =>
    obtain ⟨a, hread⟩ := k.validate_eq_ok.mp hvalid
    -- This is said without a look at who is listed.
    refine ⟨.forbidden i.context.actor.address i.target.address, ?_⟩
    intro ledger m hm hactor
    rw [k.execute_of_read hread, verdict_of_stranger hm hactor]

theorem Kind.verdict_of_operator (hm : ledger.multisig? i.target.address = .ok (some m))
    {actor : PublicAccount} (hactor : m.lists actor.key = true) :
    k.verdict (i.withActor actor) a ledger =
      let count := k.count m.cosignatories.length
      settle (k.rosterObjections a.operator m ++
          [deltaObjection m.minApproval count, deltaObjection m.minRemoval count])
        (k.emission i a (.ofInt (Threshold.step m.minApproval count))
          (.ofInt (Threshold.step m.minRemoval count))) := by
  have hlisted : (i.withActor actor).context.actor.key ∈ m.cosignatories := lists_iff.mp hactor
  have hm' : ledger.multisig? (i.withActor actor).target.address = .ok (some m) := hm
  rw [verdict_of_record hm']
  unfold objections
  simp only [List.cons_append, settle_cons]
  rw [if_neg (not_not.mpr hlisted)]
  rfl

theorem Kind.validate_withActor (k : Kind) (actor : PublicAccount) :
    k.command.validate (i.withActor actor) = k.command.validate i := by
  cases k with
  | add => rfl
  | remove => rfl

theorem Kind.execute_of_operators (k : Kind) (hm : ledger.multisig? i.target.address = .ok (some m))
    {x y : PublicAccount} (hx : m.lists x.key = true) (hy : m.lists y.key = true) :
    k.command.execute (i.withActor x) ledger = k.command.execute (i.withActor y) ledger := by
  cases hvalid : k.command.validate i with
  | error refusal =>
    have hinvalid (actor : PublicAccount) : k.command.validate (i.withActor actor) = .error refusal :=
      (k.validate_withActor actor).trans hvalid
    rw [execute_of_validate_error (hinvalid x), execute_of_validate_error (hinvalid y)]
  | ok _ =>
    obtain ⟨a, hread⟩ := k.validate_eq_ok.mp hvalid
    have hread' (actor : PublicAccount) : Arguments.read (i.withActor actor) = .ok a := hread
    rw [k.execute_of_read (hread' x), k.execute_of_read (hread' y), verdict_of_operator hm hx,
      verdict_of_operator hm hy]

/-- What two ledgers, or two actors, have in common when a change of operators cannot tell them apart. -/
theorem Kind.execute_noninterference (k : Kind) (i : Invocation)
    (hm : ledger.multisig? i.target.address = .ok (some m)) :
    (∀ ledger' m', ledger'.multisig? i.target.address = .ok (some m') →
      m.lists i.context.actor.key = false → m'.lists i.context.actor.key = false →
      ∃ refusal, k.command.execute i ledger = .error refusal ∧
        k.command.execute i ledger' = .error refusal) ∧
    (∀ ledger' m', ledger'.multisig? i.target.address = .ok (some m') → Alike i m m' →
      k.command.execute i ledger = k.command.execute i ledger') ∧
    (∀ x y : PublicAccount, m.lists x.key = true → m.lists y.key = true →
      k.command.execute (i.withActor x) ledger = k.command.execute (i.withActor y) ledger) := by
  refine ⟨?_, ?_, ?_⟩
  · intro ledger' m' hm' hactor hactor'
    obtain ⟨refusal, hrefusal⟩ := k.exists_refusal_of_stranger i
    exact ⟨refusal, hrefusal ledger m hm hactor, hrefusal ledger' m' hm' hactor'⟩
  · intro ledger' m' hm' halike
    exact execute_congr fun a hread => halike.verdict_eq hread hm hm' k
  · intro x y hx hy
    exact k.execute_of_operators hm hx hy

open Sample in
/-- A stranger is told nothing of two different records, two rosters of one size give the same addition, and
either operator may make it. -/
theorem Kind.execute_noninterference_sample :
    (∃ refusal, Command.addOperator.execute changing (recording ⟨target.address, [], 9, 0⟩) = .error refusal ∧
      Command.addOperator.execute changing (recording ⟨target.address, [key 3, key 4], 1, 200⟩) =
        .error refusal) ∧
    Command.addOperator.execute changing (recording ⟨target.address, [key 2, key 3], 1, 1⟩) =
      Command.addOperator.execute changing (recording ⟨target.address, [key 5, key 2], 1, 1⟩) ∧
    Command.addOperator.execute (changing.withActor ⟨key 3, .testnet⟩)
        (recording ⟨target.address, [key 2, key 3], 1, 1⟩) =
      Command.addOperator.execute (changing.withActor ⟨key 2, .mainnet⟩)
        (recording ⟨target.address, [key 2, key 3], 1, 1⟩) := by
  have hunlisted : (recording ⟨target.address, [], 9, 0⟩).multisig? changing.target.address =
      .ok (some ⟨target.address, [], 9, 0⟩) := rfl
  have hlisted : (recording ⟨target.address, [key 2, key 3], 1, 1⟩).multisig? changing.target.address =
      .ok (some ⟨target.address, [key 2, key 3], 1, 1⟩) := rfl
  obtain ⟨hstranger, -, -⟩ := execute_noninterference .add changing hunlisted
  obtain ⟨-, halike, hactors⟩ := execute_noninterference .add changing hlisted
  refine ⟨hstranger _ _ rfl (by decide) (by decide), halike _ _ rfl ?_, hactors _ _ (by decide) (by decide)⟩
  refine ⟨rfl, rfl, rfl, by decide, ?_⟩
  intro o ho
  obtain ⟨-, hoperator⟩ := Arguments.read_eq_ok.mp changing_read
  obtain rfl := Except.ok.inj (ho.symm.trans hoperator)
  decide

end OperatorChange
end TokenGovernance
