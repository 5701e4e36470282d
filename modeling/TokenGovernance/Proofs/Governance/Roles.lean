import TokenGovernance.Governance.Allowance
import TokenGovernance.Proofs.Governance.Run
import TokenGovernance.Proofs.Identity.Account

/-! # Operators and their flags

Along a run for one token the flag of an account tells whether its key is that of an operator, was that of
one, or never was. The rule of the token then lets in the operators and nobody else.
-/

namespace TokenGovernance

variable {t : PublicAccount} {s : Chain} {past : List Step} {a : Attempt} {seed : String} {network : Network}
  {token : TokenIdentifier}

/-- The attempt is about the token of a seed, on a network. -/
structure Attempt.Concerns (a : Attempt) (t : PublicAccount) (seed : String) (network : Network) : Prop where
  seed : (a.invocation t).seed = .ok seed
  network : a.context.network.network = network

/-- Keys that were added along a run, as often as they were. -/
def added (t : PublicAccount) (past : List Step) : List PublicKey :=
  past.flatMap fun e => (e.attempt.operations t).flatMap Operation.additions

/-- A key was that of an operator before one of the steps. -/
def Served (past : List Step) (key : PublicKey) : Prop :=
  ∃ e ∈ past, key ∈ e.before.operators

instance (past : List Step) (key : PublicKey) : Decidable (Served past key) :=
  inferInstanceAs (Decidable (∃ e ∈ past, key ∈ e.before.operators))

namespace Attempt.Concerns

theorem ofSeed (concerns : a.Concerns t seed network) (h : (a.invocation t).identifier = .ok token) :
    TokenIdentifier.ofSeed seed t.address = .ok token := by
  unfold Invocation.identifier at h
  rw [concerns.seed, Outcome.ok_bind] at h
  exact h

theorem token_eq (concerns : a.Concerns t seed network) {other : TokenIdentifier}
    (htoken : TokenIdentifier.ofSeed seed t.address = .ok token)
    (h : (a.invocation t).identifier = .ok other) : other = token := by
  have hother := concerns.ofSeed h
  rw [htoken, Except.ok.injEq] at hother
  exact hother.symm

theorem place_eq (concerns : a.Concerns t seed network) (key : PublicKey) :
    a.place token key = .role token.id (.ofKey key network) := by
  unfold Attempt.place
  rw [concerns.network]

theorem flags_of_enrols (concerns : a.Concerns t seed network)
    (htoken : TokenIdentifier.ofSeed seed t.address = .ok token) {other : TokenIdentifier}
    {keys : List PublicKey} (enrols : a.Enrols t s other keys) (x : Address) :
    (a.outcome t s).flags (.role token.id x) =
      if x ∈ keys.map (Address.ofKey · network) then some 3 else s.flags (.role token.id x) := by
  obtain rfl := concerns.token_eq htoken enrols.identifier
  have hplace : Place.role other.id x ∈ keys.map (a.place other) ↔
      x ∈ keys.map (Address.ofKey · network) := by
    simp [concerns.place_eq, Place.role]
  rw [enrols.outcome]
  unfold Flags.write
  simp only [hplace]

theorem flags_of_dismisses (concerns : a.Concerns t seed network)
    (htoken : TokenIdentifier.ofSeed seed t.address = .ok token) {other : TokenIdentifier} {key : PublicKey}
    (dismisses : a.Dismisses t s other key) (x : Address) :
    (a.outcome t s).flags (.role token.id x) =
      if x = .ofKey key network then some 1 else s.flags (.role token.id x) := by
  obtain rfl := concerns.token_eq htoken dismisses.identifier
  have hplace : Place.role other.id x ∈ [a.place other key] ↔ x = .ofKey key network := by
    simp [concerns.place_eq, Place.role]
  rw [dismisses.outcome]
  unfold Flags.write
  simp only [hplace]

end Attempt.Concerns

/-! ## Keys -/

theorem added_cons (e : Step) :
    added t (e :: past) = (e.attempt.operations t).flatMap Operation.additions ++ added t past :=
  List.flatMap_cons

theorem served_cons (e : Step) (key : PublicKey) :
    Served (e :: past) key ↔ key ∈ e.before.operators ∨ Served past key :=
  List.exists_mem_cons_iff _ _ _

theorem Attempt.Enrols.mem_operators {keys : List PublicKey} (enrols : a.Enrols t s token keys)
    (k : PublicKey) : k ∈ (a.outcome t s).operators ↔ k ∈ s.operators ∨ k ∈ keys := by
  rw [enrols.outcome]
  exact List.mem_append

theorem Attempt.Dismisses.mem_operators {key : PublicKey} (dismisses : a.Dismisses t s token key)
    (k : PublicKey) : k ∈ (a.outcome t s).operators ↔ k ∈ s.operators ∧ k ≠ key := by
  rw [dismisses.outcome, Chain.operators_of_some rfl]
  simp only [List.mem_filter, decide_eq_true_eq]

theorem Run.mem_added (run : Run t past s) : ∀ k ∈ s.operators, k ∈ added t past := by
  induction run with
  | fresh =>
    intro k hk
    cases hk
  | step run a sees timely ih =>
    intro k hk
    rw [added_cons]
    rcases Attempt.refused_or_enrols_or_dismisses sees timely with hnil | ⟨token, keys, enrols⟩ |
      ⟨token, key, dismisses⟩
    · unfold Attempt.outcome at hk
      rw [hnil] at hk ⊢
      exact ih k hk
    · rw [enrols.additions]
      rcases (enrols.mem_operators k).mp hk with hold | hnew
      · exact List.mem_append_right _ (ih k hold)
      · exact List.mem_append_left _ hnew
    · exact List.mem_append_right _ (ih k ((dismisses.mem_operators k).mp hk).1)

/-! ## Flags -/

theorem Run.flags_eq_none_iff (run : Run t past s) (same : ∀ e ∈ past, e.attempt.Concerns t seed network)
    (htoken : TokenIdentifier.ofSeed seed t.address = .ok token) (x : Address) :
    s.flags (.role token.id x) = none ↔ x ∉ (added t past).map (Address.ofKey · network) := by
  induction run with
  | fresh => simp [Chain.fresh, added]
  | @step past s run a sees timely ih =>
    obtain ⟨concerns, same'⟩ := List.forall_mem_cons.mp same
    have ih' := ih same'
    rw [added_cons, List.map_append, List.mem_append, not_or, ← ih']
    rcases Attempt.refused_or_enrols_or_dismisses sees timely with hnil | ⟨other, keys, enrols⟩ |
      ⟨other, key, dismisses⟩
    · unfold Attempt.outcome
      rw [hnil]
      simp
    · rw [concerns.flags_of_enrols htoken enrols, enrols.additions]
      by_cases hx : x ∈ keys.map (Address.ofKey · network)
      · simp [hx]
      · simp only [hx, if_false, not_false_eq_true, true_and]
    · rw [concerns.flags_of_dismisses htoken dismisses, dismisses.additions]
      by_cases hx : x = .ofKey key network
      · -- A key that is dismissed was added before, so that its flag was set already.
        have hset : s.flags (.role token.id x) ≠ none := by
          rw [Ne, ih', not_not, hx]
          exact List.mem_map_of_mem (run.mem_added key dismisses.listed)
        rw [if_pos hx]
        simp [hset]
      · rw [if_neg hx]
        simp

/-- The flag of an account that no other key shares tells what its key is to the token. -/
theorem Run.flags_eq (run : Run t past s) (same : ∀ e ∈ past, e.attempt.Concerns t seed network)
    (htoken : TokenIdentifier.ofSeed seed t.address = .ok token) {k : PublicKey}
    (distinct : ∀ k' ∈ added t past, Address.ofKey k' network = .ofKey k network → k' = k) :
    s.flags (.role token.id (.ofKey k network)) =
      if k ∈ s.operators then some 3 else if Served past k then some 1 else none := by
  induction run with
  | fresh => rfl
  | @step past s run a sees timely ih =>
    obtain ⟨concerns, same'⟩ := List.forall_mem_cons.mp same
    have distinct' : ∀ k' ∈ added t past, Address.ofKey k' network = .ofKey k network → k' = k := by
      intro k' hk'
      apply distinct
      rw [added_cons]
      exact List.mem_append_right _ hk'
    have ih' := ih same' distinct'
    -- The account of `k` is no other key's, so that its flag changes only where `k` itself is added or removed.
    rcases Attempt.refused_or_enrols_or_dismisses sees timely with hnil | ⟨other, keys, enrols⟩ |
      ⟨other, key, dismisses⟩
    · unfold Attempt.outcome
      rw [hnil, Chain.performAll_nil, ih']
      by_cases hk : k ∈ s.operators
      · simp [hk]
      · simp [hk, served_cons]
    · have haccount : Address.ofKey k network ∈ keys.map (Address.ofKey · network) ↔ k ∈ keys := by
        refine ⟨fun h => ?_, fun h => List.mem_map_of_mem h⟩
        obtain ⟨k', hk', heq⟩ := List.mem_map.mp h
        have hadded : k' ∈ added t (⟨s, a⟩ :: past) := by
          rw [added_cons, enrols.additions]
          exact List.mem_append_left _ hk'
        rw [← distinct k' hadded heq]
        exact hk'
      simp only [concerns.flags_of_enrols htoken enrols, haccount, enrols.mem_operators, served_cons, ih']
      by_cases hnew : k ∈ keys
      · simp [hnew]
      · by_cases hold : k ∈ s.operators
        · simp [hold]
        · simp [hold, hnew]
    · have haccount : Address.ofKey k network = .ofKey key network ↔ k = key := by
        refine ⟨fun h => ?_, fun h => by rw [h]⟩
        exact (distinct' key (run.mem_added key dismisses.listed) h.symm).symm
      simp only [concerns.flags_of_dismisses htoken dismisses, haccount, dismisses.mem_operators,
        served_cons, ih']
      by_cases hkey : k = key
      · simp [hkey, dismisses.listed]
      · by_cases hold : k ∈ s.operators
        · simp [hold, hkey]
        · simp [hold, hkey]

/-! ## The rule -/

/-- The flag of an account under a rule. -/
def Chain.flagUnder (s : Chain) (rule : TokenRestriction) (account : Address) : Option UInt64 :=
  s.flags ⟨rule.tokenId, rule.key, account⟩

open CreateToken in
theorem rules_issuance (i : Invocation) (b : Arguments) (approvals : Int8) :
    (issuance i b approvals).filterMap (·.transaction.operation.rule?) =
      [⟨b.identifier.id, restrictionKey "User_Role", .ge, 2⟩] := by
  have hrule : ∀ o : Operation, o.globalRestriction? = none → o.rule? = none := by
    intro o h
    cases o with
    | globalRestriction r => cases h
    | _ => rfl
  have hoperations : (issuance i b approvals).filterMap (·.transaction.operation.rule?) =
      ((issuance i b approvals).map (·.transaction.operation)).filterMap Operation.rule? := by
    rw [List.filterMap_map]
    rfl
  rw [hoperations, filterMap_issuance fun o _ _ h _ => hrule o h, filterMap_names fun _ => rfl,
    filterMap_flags fun _ => rfl]
  rfl

theorem allowed_iff (id : TokenId) (key : UInt64) (account : Address) (flag : Option UInt64) :
    (TokenRestriction.evaluate ⟨id, key, .ge, 2⟩ none account flag).allowed = true ↔
      ∃ value, flag = some value ∧ 2 ≤ value := by
  unfold TokenRestriction.evaluate TokenRestriction.denial TokenRestriction.allows
  cases flag with
  | none => simp
  | some value =>
    by_cases h : 2 ≤ value
    · simp [Comparison.holds, h]
    · simp [Comparison.holds, h]

/-- Along a run for one token that was created, the flag of every key that shares its address with no other
tells whether it is one of the operators, or was one, and the rule that the creation set lets in the
operators only. -/
theorem Run.allowed_iff_operator (run : Run t past s)
    (same : ∀ e ∈ past, e.attempt.Concerns t seed network) {e : Step} (he : e ∈ past)
    (creates : e.attempt.command = .createToken) {transactions : List InnerTransaction}
    (h : e.attempt.command.execute (e.attempt.invocation t) e.attempt.snapshot.reader = .ok transactions) :
    ∃ rule, transactions.filterMap (·.transaction.operation.rule?) = [rule] ∧
      ∀ k, (∀ k' ∈ added t past, Address.ofKey k' network = .ofKey k network → k' = k) →
        (s.flagUnder rule (.ofKey k network) = some 3 ↔ k ∈ s.operators) ∧
        (s.flagUnder rule (.ofKey k network) = some 1 ↔ k ∉ s.operators ∧ Served past k) ∧
        (s.flagUnder rule (.ofKey k network) = none ↔ k ∉ s.operators ∧ ¬ Served past k) ∧
        ((rule.evaluate none (.ofKey k network) (s.flagUnder rule (.ofKey k network))).allowed = true ↔
          k ∈ s.operators) := by
  rw [creates] at h
  obtain ⟨b, hreads⟩ := CreateToken.reads_of_execute h
  obtain ⟨approvals, -, hexecute⟩ := CreateToken.execute_of_reads hreads
  obtain rfl := Except.ok.inj (h.symm.trans (hexecute _))
  refine ⟨_, rules_issuance _ b approvals, fun k distinct => ?_⟩
  have htoken := (same e he).ofSeed hreads.identifier
  have hflag : s.flagUnder ⟨b.identifier.id, restrictionKey "User_Role", .ge, 2⟩ (.ofKey k network) = _ :=
    run.flags_eq same htoken distinct
  rw [hflag, allowed_iff]
  by_cases hk : k ∈ s.operators
  · simp [hk]
  · by_cases hserved : Served past k
    · simp [hk, hserved]
    · simp [hk, hserved]

namespace Sample

theorem departure_concerns : ∀ e ∈ departurePast, e.attempt.Concerns target "gold" .testnet := by
  intro e he
  simp only [departurePast, List.mem_cons, List.not_mem_nil, or_false] at he
  rcases he with rfl | rfl
  · exact ⟨rfl, rfl⟩
  · exact ⟨rfl, rfl⟩

theorem added_departure : added target departurePast = [key 2, key 3, key 4] := by
  unfold departurePast
  rw [added_cons, departure_dismisses.additions, added_cons, founding_enrols.additions]
  rfl

theorem digest_second : (Sha256.hash (key 2).octets.1).1.head? = some 0x75 := by decide +kernel

theorem digest_third : (Sha256.hash (key 3).octets.1).1.head? = some 0x64 := by decide +kernel

theorem digest_fourth : (Sha256.hash (key 4).octets.1).1.head? = some 0x9F := by decide +kernel

theorem addresses_nodup : ((added target departurePast).map (Address.ofKey · .testnet)).Nodup := by
  have hbytes : (((added target departurePast).map (Address.ofKey · .testnet)).map fun a => a.octets.1[1]?) =
      [some 0x75, some 0x64, some 0x9F] := by
    rw [added_departure]
    simp only [List.map_cons, List.map_nil, Address.getElem?_one_ofKey, digest_second, digest_third,
      digest_fourth]
  apply List.Nodup.of_map fun a => a.octets.1[1]?
  rw [hbytes]
  decide

end Sample

open Sample in
theorem Run.denied_departed : ∃ rule, departed.flagUnder rule (.ofKey (key 4) .testnet) = some 1 ∧
    (rule.evaluate none (.ofKey (key 4) .testnet) (some 1)).allowed ≠ true := by
  obtain ⟨approvals, -, hexecute⟩ := CreateToken.execute_of_reads creation_reads
  obtain ⟨rule, -, hflags⟩ := Run.allowed_iff_operator departure_run departure_concerns
    (e := ⟨.fresh, founding⟩) (by simp [departurePast]) rfl (hexecute _)
  have hadded : key 4 ∈ added target departurePast := by
    rw [added_departure]
    decide
  obtain ⟨-, hone, -, hallowed⟩ := hflags (key 4) fun k hk h =>
    List.inj_on_of_nodup_map addresses_nodup hk hadded h
  have hgone : key 4 ∉ departed.operators := by
    rw [Chain.operators_of_some departed_quorum]
    decide
  have hserved : Served departurePast (key 4) := by
    refine ⟨⟨founded, departure⟩, List.mem_cons_self, ?_⟩
    rw [Chain.operators_of_some founded_quorum]
    decide
  have hflag := hone.mpr ⟨hgone, hserved⟩
  rw [hflag] at hallowed
  exact ⟨rule, hflag, fun h => hgone (hallowed.mp h)⟩

end TokenGovernance
