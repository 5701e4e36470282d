import TokenGovernance.Command.Basic
import TokenGovernance.Proofs.Outcome
import Mathlib.Data.List.Nodup

/-! # What arguments that are accepted say

Every reading of arguments with the exact condition under which it gives a result.
-/

namespace TokenGovernance

open Outcome

theorem Context.get_of_not_has {α : Type} {c : Context} {name : String} (h : c.has name = false)
    (d : Json.Decoder α) (absent : α) : c.get d name absent = .ok absent := by
  unfold Context.has at h
  unfold Context.get
  split
  · rfl
  · rfl
  · rename_i value hnull hvalue
    rw [hvalue, Option.any_some, Bool.not_eq_false'] at h
    cases value with
    | null => exact absurd rfl hnull
    | _ => simp [Json.isNull] at h

theorem Context.has_of_get_ne {α : Type} {c : Context} {d : Json.Decoder α} {name : String} {absent a : α}
    (h : c.get d name absent = .ok a) (hne : a ≠ absent) : c.has name = true := by
  by_contra hmissing
  rw [Bool.not_eq_true] at hmissing
  rw [get_of_not_has hmissing, Except.ok.injEq] at h
  exact hne h.symm

namespace Invocation

variable {i : Invocation}

theorem has_of_seed {seed : String} (h : i.seed = .ok seed) : i.context.has "identifier" = true := by
  by_contra hmissing
  rw [Bool.not_eq_true] at hmissing
  unfold Invocation.seed at h
  rw [Context.get_of_not_has hmissing] at h
  simp at h

theorem identifier_eq_ok {token : TokenIdentifier} :
    i.identifier = .ok token ↔ ∃ seed nonce, i.seed = .ok seed ∧ TokenNonce.ofSeed seed = .ok nonce ∧
      token = .ofNonce nonce i.target.address := by
  unfold identifier TokenIdentifier.ofSeed
  simp only [bind_eq_ok, map_eq_ok]
  constructor
  · rintro ⟨seed, hseed, nonce, hnonce, rfl⟩
    exact ⟨seed, nonce, hseed, hnonce, rfl⟩
  · rintro ⟨seed, nonce, hseed, hnonce, rfl⟩
    exact ⟨seed, hseed, nonce, hnonce, rfl⟩

theorem checkOperator_eq_ok {argument : String} {o : Operator} :
    i.checkOperator argument o = .ok () ↔ o.role = .operator ∧ o.key ≠ i.target.key := by
  unfold checkOperator
  simp only [refuse_eq_ok, ne_eq, not_not, and_true]

theorem checkOperators_eq_ok {earlier : List PublicKey} {operators : List Operator} :
    i.checkOperators earlier operators = .ok () ↔
      (∀ o ∈ operators, o.role = .operator ∧ o.key ≠ i.target.key ∧ o.key ∉ earlier) ∧
        (operators.map (·.key)).Nodup := by
  induction operators generalizing earlier with
  | nil => simp [checkOperators]
  | cons o rest ih =>
    rw [checkOperators]
    simp only [bind_eq_ok, exists_unit, throw_eq, error_bind, refuse_eq_ok, checkOperator_eq_ok, ih,
      List.forall_mem_cons, List.map_cons, List.nodup_cons, List.mem_map, not_exists, not_and]
    constructor
    · rintro ⟨⟨hrole, hself⟩, hnew, hrest, hnodup⟩
      refine ⟨⟨⟨hrole, hself, hnew⟩, fun p hp => ?_⟩, fun p hp hkey => ?_, hnodup⟩
      · obtain ⟨prole, pself, pnew⟩ := hrest p hp
        exact ⟨prole, pself, fun h => pnew (List.mem_cons_of_mem _ h)⟩
      · exact (hrest p hp).2.2 (hkey ▸ List.mem_cons_self)
    · rintro ⟨⟨⟨hrole, hself, hnew⟩, hrest⟩, hkey, hnodup⟩
      refine ⟨⟨hrole, hself⟩, hnew, fun p hp => ?_, hnodup⟩
      obtain ⟨prole, pself, pnew⟩ := hrest p hp
      refine ⟨prole, pself, fun h => ?_⟩
      rcases List.mem_cons.mp h with h | h
      · exact hkey p hp h
      · exact pnew h

theorem checkOperators_append {earlier : List PublicKey} {front : List Operator}
    (h : i.checkOperators earlier front = .ok ()) (back : List Operator) :
    i.checkOperators earlier (front ++ back) = i.checkOperators ((front.map (·.key)).reverse ++ earlier) back := by
  induction front generalizing earlier with
  | nil => rfl
  | cons o rest ih =>
    rw [checkOperators] at h
    simp only [bind_eq_ok, exists_unit, throw_eq, error_bind, refuse_eq_ok] at h
    obtain ⟨hcheck, hnew, hrest⟩ := h
    rw [List.cons_append, checkOperators, hcheck, ok_bind, if_neg hnew, ih hrest, List.map_cons, List.reverse_cons,
      List.append_assoc]
    rfl

theorem checkOperators_of_refused {front : List Operator} (h : i.checkOperators [] front = .ok ()) {o : Operator}
    {refusal : Refusal} (hcheck : i.checkOperator "operators" o = .error refusal) (back : List Operator) :
    i.checkOperators [] (front ++ o :: back) = .error refusal := by
  rw [checkOperators_append h, checkOperators, hcheck, error_bind]

theorem checkOperators_of_repeated {front : List Operator} (h : i.checkOperators [] front = .ok ()) {o : Operator}
    (hcheck : i.checkOperator "operators" o = .ok ()) (hkey : o.key ∈ front.map (·.key)) (back : List Operator) :
    i.checkOperators [] (front ++ o :: back) =
      .error (.invalidArgument "operators" (.duplicateOperator o.key)) := by
  have hmem : o.key ∈ (front.map (·.key)).reverse ++ [] := by
    rw [List.append_nil, List.mem_reverse]
    exact hkey
  rw [checkOperators_append h, checkOperators, hcheck, ok_bind, if_pos hmem]
  rfl

/-- The operators of a new token that are accepted. -/
structure AcceptsOperators (i : Invocation) (operators : List Operator) : Prop where
  two_le : 2 ≤ operators.length
  le_max : operators.length ≤ 25
  role : ∀ o ∈ operators, o.role = .operator
  not_target : ∀ o ∈ operators, o.key ≠ i.target.key
  nodup : (operators.map (·.key)).Nodup

theorem operators_eq_ok {operators : List Operator} :
    i.operators = .ok operators ↔
      i.context.get Wire.decoder "operators" [] = .ok operators ∧ i.AcceptsOperators operators := by
  unfold Invocation.operators
  simp only [bind_eq_ok, exists_unit, throw_eq, error_bind, pure_eq, refuse_eq_ok, checkOperators_eq_ok,
    List.not_mem_nil, not_false_eq_true, and_true, Nat.not_lt, Except.ok.injEq]
  constructor
  · rintro ⟨ops, hget, ⟨hall, hnodup⟩, htwo, hmax, rfl⟩
    exact ⟨hget, htwo, hmax, fun o ho => (hall o ho).1, fun o ho => (hall o ho).2, hnodup⟩
  · rintro ⟨hget, h⟩
    exact ⟨operators, hget, ⟨fun o ho => ⟨h.role o ho, h.not_target o ho⟩, h.nodup⟩, h.two_le, h.le_max, rfl⟩

theorem operator_eq_ok {o : Operator} :
    i.operator = .ok o ↔ i.context.get Wire.decoder "operator" none = .ok (some o) ∧ o.role = .operator ∧
      o.key ≠ i.target.key := by
  unfold operator
  simp only [bind_eq_ok]
  constructor
  · rintro ⟨_ | p, hget, h⟩
    · simp at h
    · simp only [bind_eq_ok, exists_unit, checkOperator_eq_ok, pure_eq, Except.ok.injEq] at h
      obtain ⟨hok, rfl⟩ := h
      exact ⟨hget, hok⟩
  · rintro ⟨hget, hok⟩
    refine ⟨some o, hget, ?_⟩
    simp only [bind_eq_ok, exists_unit, checkOperator_eq_ok, pure_eq, and_true]
    exact hok

theorem has_of_operator {o : Operator} (h : i.operator = .ok o) : i.context.has "operator" = true := by
  obtain ⟨hget, -⟩ := operator_eq_ok.mp h
  exact Context.has_of_get_ne hget (Option.some_ne_none o)

end Invocation
end TokenGovernance
