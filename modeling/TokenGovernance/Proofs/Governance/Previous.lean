import TokenGovernance.Proofs.Governance.Roles

/-! # Previous values of flags

A change of a flag states the value that it replaces, which no command looks up: an addition takes the flag
to be unset, and a removal takes it to be that of an operator. Along a run all of them are right as long as no
account is made that of an operator twice, and no longer.
-/

namespace TokenGovernance

variable {t : PublicAccount} {s : Chain} {past : List Step} {a : Attempt} {seed : String} {network : Network}
  {token : TokenIdentifier}

/-- Every change of a flag that the step emits states the value that is recorded at that moment. -/
def Step.Truthful (e : Step) (t : PublicAccount) : Prop :=
  e.before.Truthful (e.attempt.operations t)

theorem Attempt.Enrols.not_truthful {keys : List PublicKey} (enrols : a.Enrols t s token keys) {k : PublicKey}
    (hk : k ∈ keys) {value : UInt64} (hflag : s.flags (a.place token k) = some value) :
    ¬ Step.Truthful ⟨s, a⟩ t := by
  intro htruthful
  obtain ⟨-, hnone⟩ := enrols.truthful.mp htruthful
  have hunset := hnone k hk
  rw [hflag] at hunset
  cases hunset

theorem Run.truthful_of_enrols (run : Run t past s) (same : ∀ e ∈ past, e.attempt.Concerns t seed network)
    (concerns : a.Concerns t seed network) {keys : List PublicKey} (enrols : a.Enrols t s token keys) :
    Step.Truthful ⟨s, a⟩ t ↔ (keys.map (Address.ofKey · network)).Nodup ∧
      ∀ x ∈ keys.map (Address.ofKey · network), x ∉ (added t past).map (Address.ofKey · network) := by
  have htoken := concerns.ofSeed enrols.identifier
  have hplaces : keys.map (a.place token) =
      (keys.map (Address.ofKey · network)).map (Place.role token.id) := by
    rw [List.map_map]
    exact List.map_congr_left fun k _ => concerns.place_eq k
  unfold Step.Truthful
  rw [enrols.truthful, hplaces, List.nodup_map_iff (Place.role_injective token.id), List.forall_mem_map]
  simp only [concerns.place_eq, run.flags_eq_none_iff same htoken]

theorem Run.truthful_of_dismisses (run : Run t past s) (same : ∀ e ∈ past, e.attempt.Concerns t seed network)
    (concerns : a.Concerns t seed network) {key : PublicKey} (dismisses : a.Dismisses t s token key)
    (hnodup : ((added t past).map (Address.ofKey · network)).Nodup) : Step.Truthful ⟨s, a⟩ t := by
  have htoken := concerns.ofSeed dismisses.identifier
  -- The flag of the one that goes is known, as no other key has its account.
  have distinct : ∀ k ∈ added t past, Address.ofKey k network = .ofKey key network → k = key := by
    intro k hk h
    exact List.inj_on_of_nodup_map hnodup hk (run.mem_added key dismisses.listed) h
  unfold Step.Truthful
  rw [dismisses.truthful, concerns.place_eq, run.flags_eq same htoken distinct, if_pos dismisses.listed]

/-- Along a run for one token every previous value is right exactly when the accounts that were enrolled are
all different. -/
theorem Run.truthful_iff_nodup (run : Run t past s) (same : ∀ e ∈ past, e.attempt.Concerns t seed network) :
    (∀ e ∈ past, e.Truthful t) ↔ ((added t past).map (Address.ofKey · network)).Nodup := by
  induction run with
  | fresh => simp [added]
  | @step past s run a sees timely ih =>
    obtain ⟨concerns, same'⟩ := List.forall_mem_cons.mp same
    rw [List.forall_mem_cons, ih same', added_cons, List.map_append]
    -- A removal adds no account, so only an enrolment can meet one of those before it.
    rcases Attempt.refused_or_enrols_or_dismisses sees timely with hnil | ⟨token, keys, enrols⟩ |
      ⟨token, key, dismisses⟩
    · simp [hnil, Step.Truthful, Chain.Truthful]
    · rw [run.truthful_of_enrols same' concerns enrols, enrols.additions, List.nodup_append']
      constructor
      · rintro ⟨⟨hkeys, hnew⟩, hpast⟩
        exact ⟨hkeys, hpast, fun x hx => hnew x hx⟩
      · rintro ⟨hkeys, hpast, hdisjoint⟩
        exact ⟨⟨hkeys, fun x hx hold => hdisjoint hx hold⟩, hpast⟩
    · rw [dismisses.additions, List.map_nil, List.nil_append]
      constructor
      · rintro ⟨-, hnodup⟩
        exact hnodup
      · intro hnodup
        exact ⟨run.truthful_of_dismisses same' concerns dismisses hnodup, hnodup⟩

open Sample in
theorem Run.truthful_departure :
    Step.Truthful ⟨founded, departure⟩ target ∧ Step.Truthful ⟨.fresh, founding⟩ target := by
  have htruthful := (Run.truthful_iff_nodup departure_run departure_concerns).mpr addresses_nodup
  rw [departurePast, List.forall_mem_cons, List.forall_mem_singleton] at htruthful
  exact htruthful

open Sample in
/-- An operator that was removed and is added again has the flag of a guest, which the addition takes to be
unset. -/
theorem Run.untruthful_readmission : Run target (⟨departed, readmission⟩ :: departurePast) readmitted ∧
    (∀ e ∈ ⟨departed, readmission⟩ :: departurePast, e.attempt.Concerns target "gold" .testnet) ∧
    key 4 ∈ founded.operators ∧ key 4 ∉ departed.operators ∧ key 4 ∈ readmitted.operators ∧
    departed.flags (.role Sample.token.id (.ofKey (key 4) .testnet)) = some 1 ∧
    ¬ Step.Truthful ⟨departed, readmission⟩ target := by
  have departs : departure.Concerns target "gold" .testnet := ⟨rfl, rfl⟩
  have readmits : readmission.Concerns target "gold" .testnet := ⟨rfl, rfl⟩
  have htoken := departs.ofSeed departure_dismisses.identifier
  have hflag : departed.flags (.role Sample.token.id (.ofKey (key 4) .testnet)) = some 1 := by
    rw [departed, departs.flags_of_dismisses htoken departure_dismisses, if_pos rfl]
  refine ⟨readmission_run, ?_, ?_, ?_, ?_, hflag, ?_⟩
  · exact List.forall_mem_cons.mpr ⟨readmits, departure_concerns⟩
  · rw [Chain.operators_of_some founded_quorum]
    decide
  · rw [Chain.operators_of_some departed_quorum]
    decide
  · rw [Chain.operators_of_some readmitted_quorum]
    decide
  · rw [← readmits.place_eq] at hflag
    exact readmission_enrols.not_truthful List.mem_cons_self hflag

end TokenGovernance
