import TokenGovernance.Proofs.Command.Objections

/-! # Which creations are admitted

What the values of the arguments of a creation have to be. Nothing else is asked of them: where no objection
stands, they are that.
-/

namespace TokenGovernance

open OperatorChange

namespace CreateToken

variable {i : Invocation}

/-! ## What is admitted -/

/-- The values that the arguments of a creation may have. -/
structure Admissible (i : Invocation) : Prop where
  name : ∃ segments, i.context.value "name" = .string (TokenName.join segments) ∧ 1 ≤ segments.length ∧
    segments.length ≤ 3 ∧ ∀ s ∈ segments, TokenName.IsSegment s
  source : ∃ s, i.context.value "source" = .string s ∧ ∃ c ∈ s.toList, Text.isBlank c = false
  identifier : (∃ n, i.context.value "identifier" = .number n) ∨
    ∃ s, i.context.value "identifier" = .string s ∧ ∃ c ∈ s.toList, Text.isBlank c = false
  supply : i.context.value "supply" = .null ∨
    ∃ n : Nat, i.context.value "supply" = .nat n ∧ n ≤ 18446744073709551615
  operators : ∃ items operators, i.context.value "operators" = .array items ∧
    List.Forall₂ Operator.Spells items operators ∧ i.AcceptsOperators operators

theorem clear_name_string (name : String) : Clear (nameObjections name) ↔
    (TokenName.split name).length ≤ 3 ∧ ∀ s ∈ TokenName.split name, TokenName.IsSegment s := by
  change Clear (⟨decide (3 < (TokenName.split name).length), _⟩ :: (TokenName.split name).map fun part =>
    ⟨decide (¬ TokenName.IsSegment part), .invalidArgument "name" (.segment part)⟩) ↔ _
  rw [clear_cons, decide_eq_false_iff_not, Nat.not_lt]
  unfold Clear
  simp only [List.forall_mem_map, decide_eq_false_iff_not, not_not]

theorem clear_name {j : Json} : j.text?.isNone = false ∧ Clear (nameObjections (j.text?.getD "")) ↔
    ∃ segments, j = .string (TokenName.join segments) ∧ 1 ≤ segments.length ∧ segments.length ≤ 3 ∧
      ∀ s ∈ segments, TokenName.IsSegment s := by
  cases j with
  | string name =>
    simp only [Json.text?, Option.isNone_some, Option.getD_some, true_and, clear_name_string, Json.string.injEq]
    constructor
    · rintro ⟨hlength, hall⟩
      exact ⟨_, (TokenName.join_split name).symm, List.length_pos_of_ne_nil (TokenName.split_ne_nil name), hlength,
        hall⟩
    · rintro ⟨segments, rfl, hpos, hlength, hall⟩
      have hdots : ∀ s ∈ segments, '.' ∉ s.toList := fun s hs =>
        TokenName.no_dot_of_isSegment (TokenName.isSegment_iff.mpr (hall s hs))
      rw [TokenName.split_join (List.ne_nil_of_length_pos hpos) hdots]
      exact ⟨hlength, hall⟩
  | _ => simp [Json.text?]

theorem clear_source {j : Json} : Clear (sourceObjections j) ↔
    ∃ s, j = .string s ∧ ∃ c ∈ s.toList, Text.isBlank c = false := by
  unfold sourceObjections
  simp only [clear_cons, clear_nil, and_true]
  cases j with
  | string s => simp [Json.text?, blank_eq_false_iff]
  | _ => simp [Json.text?]

theorem clear_identifier {j : Json} : Clear (identifierObjections j) ↔ (∃ n, j = .number n) ∨
    ∃ s, j = .string s ∧ ∃ c ∈ s.toList, Text.isBlank c = false := by
  unfold identifierObjections
  simp only [clear_cons, clear_nil, and_true]
  cases j with
  | string s => simp [Json.text?, Json.seed?, blank_eq_false_iff]
  | _ => simp [Json.text?, Json.seed?]

theorem clear_supply {j : Json} : Clear (supplyObjections j) ↔
    j = .null ∨ ∃ n : Nat, j = .nat n ∧ n ≤ 18446744073709551615 := by
  unfold supplyObjections
  simp only [clear_cons, clear_nil, and_true]
  cases j with
  | number n =>
    cases n with
    | whole n =>
      simp only [Json.isNull, Json.whole?, Json.nat, Option.isNone_some, Bool.and_false, Option.any_some,
        decide_eq_false_iff_not, true_and, reduceCtorEq, false_or, Json.number.injEq, Json.Number.whole.injEq]
      constructor
      · intro hrange
        exact ⟨n.toNat, by omega, by omega⟩
      · rintro ⟨m, rfl, hm⟩
        omega
    | double x => simp [Json.isNull, Json.whole?, Json.nat]
  | _ => simp [Json.isNull, Json.whole?, Json.nat]

theorem clear_roster {operators : List Operator} :
    Clear (operators.mapIdx fun j o => operatorObjections i.target.key (operators.take j) o).flatten ↔
      (∀ o ∈ operators, o.role = .operator ∧ o.key ≠ i.target.key) ∧ (operators.map (·.key)).Nodup := by
  have hcheck := (decidedBy_checkOperators (i := i) [] (fun _ => Iff.rfl) operators).eq_settle
  simp only [List.nil_append, List.map_nil] at hcheck
  rw [← settle_eq_ok, ← hcheck, Invocation.checkOperators_eq_ok]
  simp only [List.not_mem_nil, not_false_eq_true, and_true]

theorem clear_operators {j : Json} : Clear (operatorsObjections i.target.key j) ↔
    ∃ items operators, j = .array items ∧ List.Forall₂ Operator.Spells items operators ∧
      i.AcceptsOperators operators := by
  unfold operatorsObjections
  simp only [clear_append, clear_cons, clear_nil, and_true, clear_roster, decide_eq_false_iff_not, Nat.not_lt]
  cases j with
  | array items =>
    simp only [roster, Json.items?, Option.isNone_some, Option.any_some, Option.getD_some, true_and,
      Json.array.injEq]
    constructor
    · rintro ⟨⟨hread, hall, hnodup⟩, htwo, hmax⟩
      exact ⟨items, _, rfl, Operator.forall₂_spells_iff.mpr ⟨hread, rfl⟩, htwo, hmax, fun o ho => (hall o ho).1,
        fun o ho => (hall o ho).2, hnodup⟩
    · rintro ⟨_, operators, rfl, hspells, h⟩
      obtain ⟨hread, rfl⟩ := Operator.forall₂_spells_iff.mp hspells
      exact ⟨⟨hread, fun o ho => ⟨h.role o ho, h.not_target o ho⟩, h.nodup⟩, h.two_le, h.le_max⟩
  | _ => simp [Json.items?]

theorem clear_missing {c : Context} : Clear (missingObjections c) ↔
    ∀ argument ∈ ["name", "source", "identifier", "operators"], (c.value argument).isNull = false :=
  List.forall_mem_map

theorem clear_objections_iff : Clear (objections i) ↔ Admissible i := by
  unfold objections
  simp only [clear_append, clear_cons, clear_nil, and_true, clear_source, clear_identifier, clear_supply,
    clear_operators]
  constructor
  · rintro ⟨⟨⟨⟨⟨⟨-, htext⟩, hsource⟩, hidentifier⟩, hsupply⟩, hoperators⟩, hname⟩
    exact ⟨clear_name.mp ⟨htext, hname⟩, hsource, hidentifier, hsupply, hoperators⟩
  · intro h
    obtain ⟨htext, hname⟩ := clear_name.mpr h.name
    refine ⟨⟨⟨⟨⟨⟨?_, htext⟩, h.source⟩, h.identifier⟩, h.supply⟩, h.operators⟩, hname⟩
    -- None of the values that are admitted is null.
    obtain ⟨segments, hname, -⟩ := h.name
    obtain ⟨source, hsource, -⟩ := h.source
    obtain ⟨items, operators, hoperators, -⟩ := h.operators
    rw [clear_missing]
    simp only [List.forall_mem_cons, hname, hsource, hoperators]
    refine ⟨rfl, rfl, ?_, rfl, List.forall_mem_nil _⟩
    obtain ⟨n, hidentifier⟩ | ⟨seed, hidentifier, -⟩ := h.identifier
    · rw [hidentifier]
      rfl
    · rw [hidentifier]
      rfl

/-- A creation is valid when its arguments are admissible. Otherwise it is refused with the first objection that
stands, where an operator is whatever the items of its argument spell. -/
theorem validate_eq_ok_iff_admissible (i : Invocation) :
    (Command.createToken.validate i = .ok () ↔ Admissible i) ∧
    Command.createToken.validate i = settle (objections i) () ∧
    ∀ item o, Operator.ofJson? item = some o ↔ Operator.Spells item o := by
  refine ⟨?_, validate_eq_settle i, fun _ _ => Operator.ofJson?_eq_some⟩
  rw [validate_eq_settle, settle_eq_ok, clear_objections_iff]

open Sample in
/-- A name that is no name is not looked into before the rest. -/
example : Command.createToken.validate ⟨context (key 1) [("identifier", .bool true), ("name", .string "-"),
    ("operators", .array []), ("source", .string " ")], target⟩ = .error (.invalidArgument "source" .empty) := by
  decide +kernel

end CreateToken
end TokenGovernance
