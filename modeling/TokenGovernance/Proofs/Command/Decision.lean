import TokenGovernance.Proofs.Command.Verdict

/-! # Steps decided by objections

A chain of checks comes to its first refusal. When every step has a list of objections that decides it, the
chain is decided by all the lists, one behind the other.
-/

namespace TokenGovernance

open Outcome

namespace OperatorChange

variable {α ι : Type}

/-- No objection stands. -/
def Clear (objections : List Objection) : Prop :=
  ∀ o ∈ objections, o.stands = false

theorem clear_append {front back : List Objection} : Clear (front ++ back) ↔ Clear front ∧ Clear back :=
  List.forall_mem_append

theorem clear_cons {o : Objection} {rest : List Objection} :
    Clear (o :: rest) ↔ o.stands = false ∧ Clear rest :=
  List.forall_mem_cons

theorem clear_nil : Clear [] :=
  List.forall_mem_nil _

theorem settle_eq_ok {objections : List Objection} {a : α} : settle objections a = .ok a ↔ Clear objections := by
  unfold settle Clear
  cases h : objections.find? (·.stands) with
  | none => simpa using List.find?_eq_none.mp h
  | some o =>
    simp only [reduceCtorEq, false_iff]
    intro hclear
    have hstands := List.find?_some h
    rw [hclear o (List.mem_of_find?_eq_some h)] at hstands
    cases hstands

theorem settle_append (front back : List Objection) (a : α) :
    settle (front ++ back) a = settle front () >>= fun _ => settle back a := by
  unfold settle
  rw [List.find?_append]
  cases front.find? (·.stands) with
  | none => rfl
  | some o => rfl

theorem settle_map (p : ι → Bool) (refusal : ι → Refusal) (xs : List ι) (a : α) :
    settle (xs.map fun x => ⟨p x, refusal x⟩) a = match xs.find? p with
      | some x => .error (refusal x)
      | none => .ok a := by
  have hfind : (xs.map fun x => (⟨p x, refusal x⟩ : Objection)).find? (·.stands) =
      (xs.find? p).map fun x => ⟨p x, refusal x⟩ :=
    List.find?_map
  unfold settle
  rw [hfind]
  cases xs.find? p with
  | none => rfl
  | some x => rfl

end OperatorChange

open OperatorChange

variable {α β : Type} {xs ys : List Objection}

/-- The step is refused with the first objection that stands, and with nothing else. -/
def DecidedBy (objections : List Objection) (step : Except Refusal α) : Prop :=
  (step >>= fun _ => .ok ()) = settle objections ()

/-- What was found, or else the refusal. -/
def orRefuse (found : Option α) (refusal : Refusal) : Except Refusal α :=
  match found with
  | some a => .ok a
  | none => .error refusal

theorem orRefuse_eq_ok {found : Option α} {refusal : Refusal} {a : α} :
    orRefuse found refusal = .ok a ↔ found = some a := by
  unfold orRefuse
  cases found with
  | none => simp
  | some b => simp

namespace DecidedBy

theorem ok (a : α) : DecidedBy [] (.ok a : Except Refusal α) :=
  rfl

theorem eq_settle {step : Except Refusal Unit} (h : DecidedBy xs step) : step = settle xs () := by
  unfold DecidedBy at h
  rw [← h]
  cases step with
  | error refusal => rfl
  | ok a => rfl

theorem bind {step : Except Refusal α} {next : α → Except Refusal β} (h : DecidedBy xs step)
    (hnext : ∀ a, step = .ok a → DecidedBy ys (next a)) : DecidedBy (xs ++ ys) (step >>= next) := by
  unfold DecidedBy at h hnext ⊢
  rw [settle_append, ← h]
  cases step with
  | error refusal => rfl
  | ok a => exact hnext a rfl

theorem map {step : Except Refusal α} (h : DecidedBy xs step) (f : α → β) : DecidedBy xs (step.map f) := by
  unfold DecidedBy at h ⊢
  rw [← h]
  cases step with
  | error refusal => rfl
  | ok a => rfl

theorem refuse {p : Prop} [Decidable p] {stands : Bool} (hstands : stands = true ↔ p) (refusal : Refusal)
    {step : Except Refusal α} (h : ¬ p → DecidedBy xs step) :
    DecidedBy (⟨stands, refusal⟩ :: xs) (if p then .error refusal else step) := by
  obtain rfl : stands = decide p := Bool.eq_iff_iff.mpr (hstands.trans decide_eq_true_iff.symm)
  unfold DecidedBy at h ⊢
  rw [settle_cons]
  by_cases hp : p
  · rw [if_pos hp, if_pos hp, error_bind]
  · rw [if_neg hp, if_neg hp]
    exact h hp

theorem orRefuse (found : Option α) (refusal : Refusal) :
    DecidedBy [⟨found.isNone, refusal⟩] (orRefuse found refusal) := by
  cases found with
  | none => rfl
  | some a => rfl

end DecidedBy
end TokenGovernance
