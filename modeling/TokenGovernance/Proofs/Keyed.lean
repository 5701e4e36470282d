import TokenGovernance.Keyed

/-! # Looking up in association lists -/

namespace TokenGovernance.Keyed

variable {κ α : Type} [LT κ] [DecidableLT κ] [DecidableEq κ]

omit [LT κ] [DecidableLT κ] in
theorem find?_cons_self (k : κ) (a : α) (l : List (κ × α)) : find? k ((k, a) :: l) = some a :=
  if_pos rfl

theorem find?_insert (k x : κ) (a : α) (l : List (κ × α)) :
    find? x (insert k a l) = if x = k then some a else find? x l := by
  induction l with
  | nil => rfl
  | cons entry rest ih =>
    obtain ⟨k', a'⟩ := entry
    unfold insert
    by_cases heq : k = k'
    · rw [if_pos heq, ← heq, find?, find?]
      by_cases hx : x = k
      · rw [if_pos hx, if_pos hx]
      · rw [if_neg hx, if_neg hx, if_neg hx]
    · rw [if_neg heq]
      by_cases hlt : k < k'
      · rw [if_pos hlt, find?]
      · rw [if_neg hlt, find?, ih, find?]
        by_cases hx : x = k'
        · have hne : x ≠ k := by
            rw [hx]
            exact fun h => heq h.symm
          rw [if_pos hx, if_neg hne, if_pos hx]
        · rw [if_neg hx, if_neg hx]

theorem mem_insert {k : κ} {a : α} {l : List (κ × α)} {entry : κ × α} (h : entry ∈ insert k a l) :
    entry = (k, a) ∨ entry ∈ l := by
  induction l with
  | nil => exact .inl (List.mem_singleton.mp h)
  | cons first rest ih =>
    unfold insert at h
    split at h
    · rcases List.mem_cons.mp h with h | h
      · exact .inl h
      · exact .inr (List.mem_cons_of_mem _ h)
    · split at h
      · exact List.mem_cons.mp h
      · rcases List.mem_cons.mp h with rfl | h
        · exact .inr List.mem_cons_self
        · exact (ih h).imp id (List.mem_cons_of_mem _)

theorem mem_foldl_insert {pairs l : List (κ × α)} {entry : κ × α}
    (h : entry ∈ pairs.foldl (fun l (k, a) => insert k a l) l) : entry ∈ l ∨ entry ∈ pairs := by
  induction pairs generalizing l with
  | nil => exact .inl h
  | cons first rest ih =>
    rcases ih h with h | h
    · rcases mem_insert h with rfl | h
      · exact .inr List.mem_cons_self
      · exact .inl h
    · exact .inr (List.mem_cons_of_mem _ h)

theorem mem_of_mem_ofList {pairs : List (κ × α)} {entry : κ × α} (h : entry ∈ ofList pairs) : entry ∈ pairs :=
  (mem_foldl_insert h).resolve_left List.not_mem_nil

/-! ## Increasing keys -/

def Increasing (l : List (κ × α)) : Prop :=
  l.Pairwise fun x y => x.1 < y.1

omit [DecidableLT κ] [DecidableEq κ] in
theorem Increasing.nodup [Std.Irrefl fun x y : κ => x < y] {l : List (κ × α)} (h : Increasing l) :
    (l.map Prod.fst).Nodup := by
  refine List.pairwise_map.mpr (h.imp fun hlt heq => ?_)
  rw [heq] at hlt
  exact Std.lt_irrefl hlt

variable [LE κ] [Std.IsLinearOrder κ] [Std.LawfulOrderLT κ]

theorem Increasing.insert {k : κ} {a : α} {l : List (κ × α)} (h : Increasing l) :
    Increasing (Keyed.insert k a l) := by
  induction l with
  | nil => exact List.pairwise_singleton _ _
  | cons first rest ih =>
    obtain ⟨k', a'⟩ := first
    obtain ⟨hfirst, hrest⟩ := List.pairwise_cons.mp h
    unfold Keyed.insert
    by_cases heq : k = k'
    · subst heq
      rw [if_pos rfl]
      exact List.pairwise_cons.mpr ⟨hfirst, hrest⟩
    · rw [if_neg heq]
      by_cases hlt : k < k'
      · rw [if_pos hlt]
        refine List.pairwise_cons.mpr ⟨fun entry hentry => ?_, h⟩
        rcases List.mem_cons.mp hentry with rfl | hentry
        · exact hlt
        · exact Std.lt_trans hlt (hfirst entry hentry)
      · rw [if_neg hlt]
        refine List.pairwise_cons.mpr ⟨fun entry hentry => ?_, ih hrest⟩
        rcases mem_insert hentry with rfl | hentry
        · exact (Std.lt_trichotomy k' k).resolve_right (by simp [Ne.symm heq, hlt])
        · exact hfirst entry hentry

theorem increasing_foldl {pairs l : List (κ × α)} (h : Increasing l) :
    Increasing (pairs.foldl (fun l (k, a) => Keyed.insert k a l) l) := by
  induction pairs generalizing l with
  | nil => exact h
  | cons first rest ih => exact ih h.insert

theorem increasing_ofList (pairs : List (κ × α)) : Increasing (ofList pairs) :=
  increasing_foldl .nil

theorem insert_of_lt {k : κ} {a : α} {l : List (κ × α)} (h : ∀ entry ∈ l, entry.1 < k) :
    Keyed.insert k a l = l ++ [(k, a)] := by
  induction l with
  | nil => rfl
  | cons first rest ih =>
    obtain ⟨k', a'⟩ := first
    obtain ⟨hfirst, hrest⟩ := List.forall_mem_cons.mp h
    have hne : k ≠ k' := by
      rintro rfl
      exact Std.lt_irrefl hfirst
    have hge : ¬ k < k' := fun hlt => Std.lt_irrefl (Std.lt_trans hfirst hlt)
    rw [Keyed.insert, if_neg hne, if_neg hge, ih hrest]
    rfl

theorem foldl_insert_of_increasing {l pairs : List (κ × α)} (h : Increasing (l ++ pairs)) :
    pairs.foldl (fun l (k, a) => Keyed.insert k a l) l = l ++ pairs := by
  induction pairs generalizing l with
  | nil => rw [List.append_nil]; rfl
  | cons first rest ih =>
    obtain ⟨k, a⟩ := first
    have hlt : ∀ entry ∈ l, entry.1 < k := fun entry hentry =>
      (List.pairwise_append.mp h).2.2 entry hentry (k, a) List.mem_cons_self
    rw [List.append_cons] at h ⊢
    rw [List.foldl_cons]
    dsimp only
    rw [insert_of_lt hlt]
    exact ih h

theorem ofList_of_increasing {pairs : List (κ × α)} (h : Increasing pairs) : ofList pairs = pairs :=
  foldl_insert_of_increasing h

end TokenGovernance.Keyed
