import TokenGovernance.Governance.Allowance

/-! # Verdicts and what they rest on

An account may hold a token if its own list accepts the token and its flag stands in the relation that the rule of the
token demands. A denial names the first of these that fails, the list before the flag.
-/

namespace TokenGovernance

/-! ## Relations -/

/-- The relation that a comparison demands, between the number of an account and the one required. -/
def Comparison.Relates : Comparison → Nat → Nat → Prop
  | .none, _, _ => True
  | .eq, actual, required => actual = required
  | .ne, actual, required => actual ≠ required
  | .lt, actual, required => actual < required
  | .le, actual, required => actual ≤ required
  | .gt, actual, required => actual > required
  | .ge, actual, required => actual ≥ required

theorem Comparison.holds_iff {c : Comparison} {actual required : UInt64} :
    c.holds actual required = true ↔ c.Relates actual.toNat required.toNat := by
  cases c with
  | none => exact iff_of_true rfl trivial
  | eq => exact beq_iff_eq.trans UInt64.toNat_inj.symm
  | ne => exact bne_iff_ne.trans (not_congr UInt64.toNat_inj.symm)
  | lt => exact decide_eq_true_iff.trans UInt64.lt_iff_toNat_lt
  | le => exact decide_eq_true_iff.trans UInt64.le_iff_toNat_le
  | gt => exact decide_eq_true_iff.trans UInt64.lt_iff_toNat_lt
  | ge => exact decide_eq_true_iff.trans UInt64.le_iff_toNat_le

/-! ## Rules and lists -/

/-- An account passes a rule that demands nothing, and any other with a flag in the relation demanded. -/
def TokenRestriction.Passes (rule : TokenRestriction) (flag : Option UInt64) : Prop :=
  rule.comparison = .none ∨ ∃ actual, flag = some actual ∧ rule.comparison.Relates actual.toNat rule.value.toNat

theorem TokenRestriction.allows_iff {rule : TokenRestriction} {flag : Option UInt64} :
    rule.allows flag = true ↔ rule.Passes flag := by
  unfold allows Passes
  split
  next h => exact iff_of_true rfl (.inl h)
  next hne =>
    refine iff_of_false nofun ?_
    rintro (hnone | ⟨_, hflag, -⟩)
    · exact hne hnone
    · cases hflag
  next hne =>
    rw [Comparison.holds_iff, or_iff_right hne]
    simp only [Option.some.injEq, exists_eq_left']

/-- An account without a list accepts every token, one with a list the tokens that it names, or those that it does not
name. -/
def Accepts : Option AccountRestriction → TokenId → Prop
  | none, _ => True
  | some ⟨_, .allow, tokens⟩, token => token ∈ tokens
  | some ⟨_, .block, tokens⟩, token => token ∉ tokens

theorem any_not_allows_iff {account : Option AccountRestriction} {token : TokenId} :
    account.any (fun list => !list.allows token) = true ↔ ¬ Accepts account token := by
  rcases account with _ | ⟨_, _ | _, tokens⟩
  · simp [Accepts]
  · simp [Accepts, AccountRestriction.allows]
  · simp [Accepts, AccountRestriction.allows]

/-! ## Denials -/

namespace TokenRestriction

variable {rule : TokenRestriction} {account : Option AccountRestriction} {address : Address}
  {flag : Option UInt64}

theorem not_passes_iff : ¬ rule.Passes flag ↔ (flag = none ∧ rule.comparison ≠ .none) ∨
    ∃ actual, flag = some actual ∧ ¬ rule.comparison.Relates actual.toNat rule.value.toNat := by
  unfold Passes
  cases flag with
  | none => simp
  | some actual =>
    simp only [Option.some.injEq, exists_eq_left', reduceCtorEq, false_and, false_or, not_or, and_iff_right_iff_imp]
    -- What demands nothing relates all numbers.
    intro hfails hnone
    rw [hnone] at hfails
    exact hfails trivial

theorem denial_of_not_accepts (h : ¬ Accepts account rule.tokenId) :
    rule.denial account flag = some .notListed :=
  if_pos (any_not_allows_iff.mpr h)

theorem denial_of_accepts (h : Accepts account rule.tokenId) : rule.denial account flag =
    if flag.isNone ∧ rule.comparison ≠ .none then some .roleUnset
    else if !rule.allows flag then some .roleBelowRule
    else none :=
  if_neg (fun hlist => any_not_allows_iff.mp hlist h)

theorem denial_of_passes (h : Accepts account rule.tokenId) (hpasses : rule.Passes flag) :
    rule.denial account flag = none := by
  have hset : ¬ (flag.isNone ∧ rule.comparison ≠ .none) := by
    rintro ⟨hflag, hrule⟩
    exact not_passes_iff.mpr (.inl ⟨Option.isNone_iff_eq_none.mp hflag, hrule⟩) hpasses
  rw [denial_of_accepts h, if_neg hset, allows_iff.mpr hpasses]
  rfl

theorem denial_of_unset (h : Accepts account rule.tokenId) (hrule : rule.comparison ≠ .none) :
    rule.denial account none = some .roleUnset := by
  rw [denial_of_accepts h]
  exact if_pos ⟨rfl, hrule⟩

theorem denial_of_below {actual : UInt64} (h : Accepts account rule.tokenId)
    (hfails : ¬ rule.comparison.Relates actual.toNat rule.value.toNat) :
    rule.denial account (some actual) = some .roleBelowRule := by
  have hrefused : rule.allows (some actual) = false :=
    Bool.eq_false_iff.mpr fun hallows => not_passes_iff.mpr (.inr ⟨actual, rfl, hfails⟩) (allows_iff.mp hallows)
  rw [denial_of_accepts h, if_neg nofun, hrefused]
  rfl

/-- What is found about an account: the first thing that speaks against it, or nothing. -/
inductive Finding (rule : TokenRestriction) (account : Option AccountRestriction) (flag : Option UInt64) :
    Option Denial → Prop
  | excluded (h : ¬ Accepts account rule.tokenId) : Finding rule account flag (some .notListed)
  | unset (h : Accepts account rule.tokenId) (hflag : flag = none) (hrule : rule.comparison ≠ .none) :
      Finding rule account flag (some .roleUnset)
  | below {actual : UInt64} (h : Accepts account rule.tokenId) (hflag : flag = some actual)
      (hfails : ¬ rule.comparison.Relates actual.toNat rule.value.toNat) :
      Finding rule account flag (some .roleBelowRule)
  | clear (h : Accepts account rule.tokenId) (hpasses : rule.Passes flag) : Finding rule account flag none

theorem finding_denial (rule : TokenRestriction) (account : Option AccountRestriction) (flag : Option UInt64) :
    Finding rule account flag (rule.denial account flag) := by
  by_cases haccepts : Accepts account rule.tokenId
  · by_cases hpasses : rule.Passes flag
    · rw [denial_of_passes haccepts hpasses]
      exact .clear haccepts hpasses
    · rcases not_passes_iff.mp hpasses with ⟨rfl, hrule⟩ | ⟨actual, rfl, hfails⟩
      · rw [denial_of_unset haccepts hrule]
        exact .unset haccepts rfl hrule
      · rw [denial_of_below haccepts hfails]
        exact .below haccepts rfl hfails
  · rw [denial_of_not_accepts haccepts]
    exact .excluded haccepts

theorem denial_eq_iff {denial : Option Denial} :
    rule.denial account flag = denial ↔ Finding rule account flag denial := by
  constructor
  · rintro rfl
    exact finding_denial rule account flag
  · rintro (h | ⟨h, rfl, hrule⟩ | ⟨h, rfl, hfails⟩ | ⟨h, hpasses⟩)
    · exact denial_of_not_accepts h
    · exact denial_of_unset h hrule
    · exact denial_of_below h hfails
    · exact denial_of_passes h hpasses

theorem denial_eq_none_iff : rule.denial account flag = none ↔ Accepts account rule.tokenId ∧ rule.Passes flag := by
  rw [denial_eq_iff]
  constructor
  · intro h
    cases h with
    | clear h hpasses => exact ⟨h, hpasses⟩
  · rintro ⟨h, hpasses⟩
    exact .clear h hpasses

theorem denial_eq_notListed_iff : rule.denial account flag = some .notListed ↔ ¬ Accepts account rule.tokenId := by
  rw [denial_eq_iff]
  constructor
  · intro h
    cases h with
    | excluded h => exact h
  · exact .excluded

theorem denial_eq_roleUnset_iff : rule.denial account flag = some .roleUnset ↔
    Accepts account rule.tokenId ∧ flag = none ∧ rule.comparison ≠ .none := by
  rw [denial_eq_iff]
  constructor
  · intro h
    cases h with
    | unset h hflag hrule => exact ⟨h, hflag, hrule⟩
  · rintro ⟨h, hflag, hrule⟩
    exact .unset h hflag hrule

theorem denial_eq_roleBelowRule_iff : rule.denial account flag = some .roleBelowRule ↔
    Accepts account rule.tokenId ∧
      ∃ actual, flag = some actual ∧ ¬ rule.comparison.Relates actual.toNat rule.value.toNat := by
  rw [denial_eq_iff]
  constructor
  · intro h
    cases h with
    | below h hflag hfails => exact ⟨h, _, hflag, hfails⟩
  · rintro ⟨h, actual, hflag, hfails⟩
    exact .below h hflag hfails

/-! ## Verdicts -/

theorem allowed_evaluate :
    (rule.evaluate account address flag).allowed = true ↔ Accepts account rule.tokenId ∧ rule.Passes flag := by
  rw [← denial_eq_none_iff]
  exact Option.isNone_iff_eq_none

theorem Passes.mono (hrule : rule.comparison = .ge) {lower higher : UInt64} (hle : lower ≤ higher)
    (h : rule.Passes (some lower)) : rule.Passes (some higher) := by
  unfold Passes at h ⊢
  rw [hrule] at h ⊢
  obtain ⟨actual, hactual, hrelates⟩ := h.resolve_left nofun
  obtain rfl := Option.some.inj hactual
  exact .inr ⟨higher, rfl, Nat.le_trans hrelates (UInt64.le_iff_toNat_le.mp hle)⟩

/-- What the verdicts of a rule rest on, for whatever list and flag an account has. -/
structure JudgesExactly (rule : TokenRestriction) : Prop where
  allowed_iff (account : Option AccountRestriction) (address : Address) (flag : Option UInt64) :
    (rule.evaluate account address flag).allowed = true ↔ Accepts account rule.tokenId ∧ rule.Passes flag
  explained (account : Option AccountRestriction) (address : Address) (flag : Option UInt64) :
    (rule.evaluate account address flag).denial = none ↔ (rule.evaluate account address flag).allowed = true
  notListed_iff (account : Option AccountRestriction) (address : Address) (flag : Option UInt64) :
    (rule.evaluate account address flag).denial = some .notListed ↔ ¬ Accepts account rule.tokenId
  roleUnset_iff (account : Option AccountRestriction) (address : Address) (flag : Option UInt64) :
    (rule.evaluate account address flag).denial = some .roleUnset ↔
      Accepts account rule.tokenId ∧ flag = none ∧ rule.comparison ≠ .none
  roleBelowRule_iff (account : Option AccountRestriction) (address : Address) (flag : Option UInt64) :
    (rule.evaluate account address flag).denial = some .roleBelowRule ↔
      Accepts account rule.tokenId ∧
        ∃ actual, flag = some actual ∧ ¬ rule.comparison.Relates actual.toNat rule.value.toNat
  never_below (account : Option AccountRestriction) (address : Address) (flag : Option UInt64) :
    rule.comparison = .none ∨ flag = none → (rule.evaluate account address flag).denial ≠ some .roleBelowRule
  list_never_admits (list : AccountRestriction) (address : Address) (flag : Option UInt64) :
    (rule.evaluate none address flag).allowed = false → (rule.evaluate (some list) address flag).allowed = false
  raise_never_refuses (account : Option AccountRestriction) (address : Address) (lower higher : UInt64) :
    rule.comparison = .ge → lower ≤ higher → (rule.evaluate account address (some lower)).allowed = true →
      (rule.evaluate account address (some higher)).allowed = true

/-- Every rule judges by the list and the flag of an account alone, and says which of them speaks against it. -/
theorem judges_exactly (rule : TokenRestriction) : rule.JudgesExactly where
  allowed_iff _ _ _ := allowed_evaluate
  explained _ _ _ := Option.isNone_iff_eq_none.symm
  notListed_iff _ _ _ := denial_eq_notListed_iff
  roleUnset_iff _ _ _ := denial_eq_roleUnset_iff
  roleBelowRule_iff _ _ _ := denial_eq_roleBelowRule_iff
  never_below account address flag h hbelow := by
    obtain ⟨-, actual, rfl, hfails⟩ := denial_eq_roleBelowRule_iff.mp hbelow
    rcases h with hrule | hflag
    · rw [hrule] at hfails
      exact hfails trivial
    · cases hflag
  list_never_admits list address flag hrefused := by
    refine Bool.eq_false_iff.mpr fun hallowed => ?_
    have hwithout : (rule.evaluate none address flag).allowed = true :=
      allowed_evaluate.mpr ⟨trivial, (allowed_evaluate.mp hallowed).2⟩
    exact Bool.false_ne_true (hrefused.symm.trans hwithout)
  raise_never_refuses account address lower higher hrule hle hallowed := by
    obtain ⟨haccepts, hpasses⟩ := allowed_evaluate.mp hallowed
    exact allowed_evaluate.mpr ⟨haccepts, hpasses.mono hrule hle⟩

end TokenRestriction

end TokenGovernance
