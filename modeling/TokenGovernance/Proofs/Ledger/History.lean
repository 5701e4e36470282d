import TokenGovernance.Proofs.Identity.Account
import TokenGovernance.Proofs.Ledger.Snapshot
import Mathlib.Data.List.Basic
import Mathlib.Data.List.Induction

/-! # Snapshots and what was reported to them

A snapshot is built of reports, that an account is there or that it has a multisig record. It lists the accounts in the
order in which they were first mentioned, and it answers with the record that was reported last.
-/

namespace TokenGovernance.Snapshot

inductive Report
  | account (a : Address)
  | multisig (m : Multisig)

/-- The account that is mentioned. -/
def Report.address : Report → Address
  | .account a => a
  | .multisig m => m.account

def enter (s : Snapshot) : Report → Snapshot
  | .account a => s.withAccount a
  | .multisig m => s.withMultisig m

/-- The snapshot of reports, the first one in front. -/
def ofReports (reports : List Report) : Snapshot :=
  reports.foldl enter empty

/-- A record behind which no other was reported for its account. -/
def IsLast (reports : List Report) (m : Multisig) : Prop :=
  ∃ before after, reports = before ++ .multisig m :: after ∧ ∀ m', .multisig m' ∈ after → m'.account ≠ m.account

/-- What a snapshot of reports holds, and what it answers. -/
structure Reflects (s : Snapshot) (reports : List Report) : Prop where
  listed (a : Address) : a ∈ s.accounts ↔ ∃ r ∈ reports, r.address = a
  once : s.accounts.Nodup
  ordered : s.accounts.Pairwise fun a b =>
    (reports.map Report.address).idxOf a < (reports.map Report.address).idxOf b
  keyed : ∀ entry ∈ s.records, entry.2.account = entry.1 ∧ entry.1 ∈ s.accounts
  increasing : Keyed.Increasing s.records
  recorded (a : Address) (m : Multisig) : s.reader.multisig? a = .ok (some m) ↔ m.account = a ∧ IsLast reports m
  unrecorded (a : Address) : s.reader.multisig? a = .ok none ↔ ∀ m, .multisig m ∈ reports → m.account ≠ a
  known (a : Address) : s.reader.accountExists a = .ok true ↔ ∃ r ∈ reports, r.address = a
  unknown (a : Address) : s.reader.accountExists a = .ok false ↔ ∀ r ∈ reports, r.address ≠ a

variable {s : Snapshot} {r : Report} {reports : List Report} {a : Address} {m : Multisig}

/-! ## One report -/

theorem accounts_enter (s : Snapshot) (r : Report) :
    (s.enter r).accounts = if r.address ∈ s.accounts then s.accounts else s.accounts ++ [r.address] := by
  have hwith (s : Snapshot) (a : Address) :
      (s.withAccount a).accounts = if a ∈ s.accounts then s.accounts else s.accounts ++ [a] := by
    unfold withAccount
    split
    · rfl
    · rfl
  cases r with
  | account a => exact hwith s a
  | multisig m => exact hwith _ m.account

theorem mem_accounts_enter : a ∈ (s.enter r).accounts ↔ a ∈ s.accounts ∨ a = r.address := by
  rw [accounts_enter]
  split
  next h =>
    refine ⟨.inl, ?_⟩
    rintro (ha | rfl)
    · exact ha
    · exact h
  next => rw [List.mem_append, List.mem_singleton]

theorem records_enter_account (s : Snapshot) (a : Address) : (s.enter (.account a)).records = s.records :=
  records_withAccount s a

theorem records_enter_multisig (s : Snapshot) (m : Multisig) :
    (s.enter (.multisig m)).records = Keyed.insert m.account m s.records :=
  records_withAccount _ m.account

theorem multisig?_enter_account (s : Snapshot) (b a : Address) :
    (s.enter (.account b)).multisig? a = s.multisig? a := by
  unfold multisig?
  rw [records_enter_account]

theorem multisig?_enter_multisig (s : Snapshot) (m : Multisig) (a : Address) :
    (s.enter (.multisig m)).multisig? a = if a = m.account then some m else s.multisig? a :=
  multisig?_withMultisig s m a

theorem multisig?_enter_of_ne (h : a ≠ r.address) : (s.enter r).multisig? a = s.multisig? a := by
  cases r with
  | account b => exact multisig?_enter_account s b a
  | multisig m =>
    rw [multisig?_enter_multisig]
    exact if_neg h

theorem accountExists_enter_of_ne (h : a ≠ r.address) : (s.enter r).accountExists a = s.accountExists a := by
  have hlisted : a ∈ (s.enter r).accounts ↔ a ∈ s.accounts := by
    rw [mem_accounts_enter, or_iff_left h]
  unfold accountExists
  rw [multisig?_enter_of_ne h, Bool.eq_iff_iff, Bool.or_eq_true, Bool.or_eq_true, List.contains_iff_mem,
    List.contains_iff_mem, hlisted]

/-! ## Last records -/

theorem isLast_concat : IsLast (reports ++ [r]) m ↔
    r = .multisig m ∨ IsLast reports m ∧ ∀ m', r = .multisig m' → m'.account ≠ m.account := by
  constructor
  · rintro ⟨before, after, h, hafter⟩
    rcases List.eq_nil_or_concat after with rfl | ⟨after, last, rfl⟩
    · exact .inl (List.singleton_inj.mp (List.append_inj' h rfl).2)
    · rw [List.concat_eq_append] at h hafter
      have hsplit : reports ++ [r] = (before ++ .multisig m :: after) ++ [last] := by
        rw [h, List.append_assoc, List.cons_append]
      obtain ⟨rfl, hlast⟩ := List.append_inj' hsplit rfl
      obtain rfl := List.singleton_inj.mp hlast
      refine .inr ⟨⟨before, after, rfl, fun m' hm' => hafter m' (List.mem_append_left _ hm')⟩, ?_⟩
      rintro m' rfl
      exact hafter m' (List.mem_append_right _ (List.mem_singleton_self _))
  · rintro (rfl | ⟨⟨before, after, rfl, hafter⟩, hr⟩)
    · exact ⟨reports, [], rfl, fun _ hm' => absurd hm' List.not_mem_nil⟩
    · refine ⟨before, after ++ [r], by rw [List.append_assoc, List.cons_append], fun m' hm' => ?_⟩
      rcases List.mem_append.mp hm' with hm' | hm'
      · exact hafter m' hm'
      · exact hr m' (List.mem_singleton.mp hm').symm

/-! ## All reports -/

theorem ofReports_concat (reports : List Report) (r : Report) :
    ofReports (reports ++ [r]) = (ofReports reports).enter r :=
  List.foldl_append

theorem mem_accounts_ofReports : a ∈ (ofReports reports).accounts ↔ ∃ r ∈ reports, r.address = a := by
  induction reports using List.reverseRecOn with
  | nil => simp [ofReports, empty]
  | append_singleton reports r ih =>
    rw [ofReports_concat, mem_accounts_enter, ih]
    simp only [List.mem_append, List.mem_singleton, or_and_right, exists_or, exists_eq_left, eq_comm (a := a)]

theorem multisig?_ofReports : (ofReports reports).multisig? a = some m ↔ m.account = a ∧ IsLast reports m := by
  induction reports using List.reverseRecOn with
  | nil => simp [ofReports, empty, multisig?, Keyed.find?, IsLast]
  | append_singleton reports r ih =>
    rw [ofReports_concat, isLast_concat]
    cases r with
    | account b =>
      rw [multisig?_enter_account, ih]
      simp
    | multisig last =>
      rw [multisig?_enter_multisig]
      simp only [Report.multisig.injEq, forall_eq']
      -- The last report answers for its account, and those in front of it for all others.
      by_cases h : a = last.account
      · rw [if_pos h, Option.some.injEq]
        constructor
        · rintro rfl
          exact ⟨h.symm, .inl rfl⟩
        · rintro ⟨hm, rfl | ⟨-, hne⟩⟩
          · rfl
          · exact absurd (h.symm.trans hm.symm) hne
      · rw [if_neg h, ih]
        refine and_congr_right fun hm => ⟨fun hlast => .inr ⟨hlast, fun heq => h (hm.symm.trans heq.symm)⟩, ?_⟩
        rintro (rfl | ⟨hlast, -⟩)
        · exact absurd hm.symm h
        · exact hlast

theorem multisig?_ofReports_eq_none :
    (ofReports reports).multisig? a = none ↔ ∀ m, .multisig m ∈ reports → m.account ≠ a := by
  induction reports using List.reverseRecOn with
  | nil => simp [ofReports, empty, multisig?, Keyed.find?]
  | append_singleton reports r ih =>
    rw [ofReports_concat]
    cases r with
    | account b =>
      rw [multisig?_enter_account, ih]
      simp
    | multisig last =>
      rw [multisig?_enter_multisig]
      simp only [List.mem_append, List.mem_singleton, or_imp, forall_and, Report.multisig.injEq, forall_eq]
      by_cases h : a = last.account
      · rw [if_pos h]
        exact iff_of_false (Option.some_ne_none last) fun hnone => hnone.2 h.symm
      · rw [if_neg h, ih, and_iff_left (Ne.symm h)]

theorem keyed_ofReports : ∀ entry ∈ (ofReports reports).records,
    entry.2.account = entry.1 ∧ entry.1 ∈ (ofReports reports).accounts := by
  induction reports using List.reverseRecOn with
  | nil => exact List.forall_mem_nil _
  | append_singleton reports r ih =>
    rw [ofReports_concat]
    intro entry hentry
    rw [mem_accounts_enter]
    cases r with
    | account b =>
      rw [records_enter_account] at hentry
      exact (ih entry hentry).imp_right .inl
    | multisig m =>
      rw [records_enter_multisig] at hentry
      rcases Keyed.mem_insert hentry with rfl | hentry
      · exact ⟨rfl, .inr rfl⟩
      · exact (ih entry hentry).imp_right .inl

theorem increasing_ofReports (reports : List Report) : Keyed.Increasing (ofReports reports).records := by
  induction reports using List.reverseRecOn with
  | nil => exact .nil
  | append_singleton reports r ih =>
    rw [ofReports_concat]
    cases r with
    | account b => rwa [records_enter_account]
    | multisig m =>
      rw [records_enter_multisig]
      exact ih.insert

theorem ordered_ofReports (reports : List Report) : (ofReports reports).accounts.Pairwise fun a b =>
    (reports.map Report.address).idxOf a < (reports.map Report.address).idxOf b := by
  induction reports using List.reverseRecOn with
  | nil => exact .nil
  | append_singleton reports r ih =>
    have hmem {a : Address} (ha : a ∈ (ofReports reports).accounts) : a ∈ reports.map Report.address :=
      List.mem_map.mpr (mem_accounts_ofReports.mp ha)
    -- An account that was mentioned before keeps its place.
    have hsame : (ofReports reports).accounts.Pairwise fun a b =>
        ((reports ++ [r]).map Report.address).idxOf a < ((reports ++ [r]).map Report.address).idxOf b := by
      refine ih.imp_of_mem fun {a b} ha hb hlt => ?_
      rw [List.map_append, List.idxOf_append_of_mem (hmem ha), List.idxOf_append_of_mem (hmem hb)]
      exact hlt
    rw [ofReports_concat, accounts_enter]
    split
    next => exact hsame
    next hnew =>
      refine List.pairwise_append.mpr ⟨hsame, List.pairwise_singleton _ _, fun a ha b hb => ?_⟩
      obtain rfl := List.mem_singleton.mp hb
      have hnew : r.address ∉ reports.map Report.address := fun h =>
        hnew (mem_accounts_ofReports.mpr (List.mem_map.mp h))
      have hlt := List.idxOf_lt_length_iff.mpr (hmem ha)
      rw [List.map_append, List.idxOf_append_of_mem (hmem ha), List.idxOf_append_of_notMem hnew]
      omega

theorem accountExists_ofReports : (ofReports reports).accountExists a = true ↔ ∃ r ∈ reports, r.address = a := by
  unfold accountExists
  rw [Bool.or_eq_true, List.contains_iff_mem, mem_accounts_ofReports, or_iff_left_of_imp]
  -- Only an account that was mentioned has a record, so that the list decides alone.
  intro h
  obtain ⟨m, hm⟩ := Option.isSome_iff_exists.mp h
  obtain ⟨haccount, before, after, rfl, -⟩ := multisig?_ofReports.mp hm
  exact ⟨.multisig m, List.mem_append_right _ List.mem_cons_self, haccount⟩

theorem accountExists_ofReports_eq_false :
    (ofReports reports).accountExists a = false ↔ ∀ r ∈ reports, r.address ≠ a := by
  rw [← Bool.not_eq_true, accountExists_ofReports]
  simp only [not_exists, not_and]

theorem nodup_ofReports (reports : List Report) : (ofReports reports).accounts.Nodup := by
  refine (ordered_ofReports reports).imp fun hlt heq => ?_
  rw [heq] at hlt
  exact Nat.lt_irrefl _ hlt

/-- Whatever is reported, in any order and however often, the snapshot reflects it, and no report changes what is
answered about an account that it does not mention. -/
theorem reflects_reports (reports : List Report) :
    (ofReports reports).Reflects reports ∧
    ∀ (s : Snapshot) (r : Report) (a : Address), a ≠ r.address →
      (s.enter r).reader.multisig? a = s.reader.multisig? a ∧
      (s.enter r).reader.accountExists a = s.reader.accountExists a := by
  constructor
  · exact {
      listed := fun _ => mem_accounts_ofReports
      once := nodup_ofReports reports
      ordered := ordered_ofReports reports
      keyed := keyed_ofReports
      increasing := increasing_ofReports reports
      recorded := fun _ _ => (Iff.of_eq (Except.ok.injEq ..)).trans multisig?_ofReports
      unrecorded := fun _ => (Iff.of_eq (Except.ok.injEq ..)).trans multisig?_ofReports_eq_none
      known := fun _ => (Iff.of_eq (Except.ok.injEq ..)).trans accountExists_ofReports
      unknown := fun _ => (Iff.of_eq (Except.ok.injEq ..)).trans accountExists_ofReports_eq_false }
  · intro s r a h
    exact ⟨congrArg Except.ok (multisig?_enter_of_ne h), congrArg Except.ok (accountExists_enter_of_ne h)⟩

end TokenGovernance.Snapshot
