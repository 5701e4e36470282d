import TokenGovernance.Proofs.Context.Register

/-! # Missing arguments

A command lacks an argument exactly when it finds that out before all else. Whatever comes after that
check has other reasons to refuse.
-/

namespace TokenGovernance

open Outcome

/-- No argument is found to be missing. -/
def Supplied {α : Type} (x : Except Refusal α) : Prop :=
  ∀ name, x ≠ .error (.missingArgument name)

section
variable {α β ε : Type} {x y : Except Refusal α}

@[simp] theorem supplied_ok (a : α) : Supplied (.ok a) := nofun

@[simp] theorem supplied_error {refusal : Refusal} :
    Supplied (.error refusal : Except Refusal α) ↔ ∀ name, refusal ≠ .missingArgument name := by
  simp [Supplied]

@[simp] theorem supplied_bind {f : α → Except Refusal β} :
    Supplied (x >>= f) ↔ Supplied x ∧ ∀ a, x = .ok a → Supplied (f a) := by
  cases x with
  | error refusal => simp
  | ok a => simp

@[simp] theorem supplied_map {f : α → β} : Supplied (x.map f) ↔ Supplied x := by
  cases x with
  | error refusal => simp [Except.map]
  | ok a => simp [Except.map]

@[simp] theorem supplied_ite {p : Prop} [Decidable p] :
    Supplied (if p then x else y) ↔ (p → Supplied x) ∧ (¬ p → Supplied y) := by
  by_cases h : p
  · simp [h]
  · simp [h]

theorem supplied_mapError {r : Except ε α} {f : ε → Refusal} (h : ∀ e name, f e ≠ .missingArgument name) :
    Supplied (r.mapError f) := by
  cases r with
  | error e => exact supplied_error.mpr (h e)
  | ok a => exact supplied_ok a

end

theorem Json.decode_optional_eq_none {α : Type} {d : Decoder α} {j : Json} :
    decode d.optional j = .ok none ↔ j = .null := by
  cases j with
  | null => simp [decode, Decoder.optional, toNode]
  | _ => simp [decode, Decoder.optional, toNode, map_eq_ok]

/-! ## The phases -/

variable {i : Invocation} {name : String}

@[simp] theorem Context.supplied_get {α : Type} (c : Context) (d : Json.Decoder α) (name : String) (absent : α) :
    Supplied (c.get d name absent) := by
  unfold get
  split
  · exact supplied_ok absent
  · exact supplied_ok absent
  · exact supplied_mapError nofun

@[simp] theorem TokenSource.supplied_ofText (s : String) : Supplied (ofText s) := by
  unfold ofText
  split
  · exact supplied_ok _
  · exact supplied_error.mpr nofun

@[simp] theorem TokenNonce.supplied_ofHex (s : String) : Supplied (ofHex s) := by
  unfold ofHex
  split
  · simp
  · split
    · simp
    · simp

@[simp] theorem TokenNonce.supplied_ofSeed (seed : String) : Supplied (ofSeed seed) := by
  simp [ofSeed]

@[simp] theorem TokenName.supplied_segments (name : String) : Supplied (segments name) := by
  unfold segments
  refine supplied_ite.mpr ⟨fun _ => by simp, fun _ => ?_⟩
  split
  · simp
  · simp

@[simp] theorem Threshold.supplied_ofCount (count : Nat) : Supplied (ofCount count) := by
  simp [ofCount]

@[simp] theorem Threshold.supplied_delta (current : UInt8) (count : Nat) : Supplied (delta current count) := by
  simp [delta]

namespace Invocation

@[simp] theorem supplied_seed (i : Invocation) : Supplied i.seed := by
  unfold seed
  refine supplied_bind.mpr ⟨i.context.supplied_get _ _ _, fun value _ => ?_⟩
  cases value with
  | _ => simp

@[simp] theorem supplied_identifier (i : Invocation) : Supplied i.identifier := by
  simp [identifier, TokenIdentifier.ofSeed]

@[simp] theorem supplied_checkOperator (i : Invocation) (argument : String) (o : Operator) :
    Supplied (i.checkOperator argument o) := by
  simp [checkOperator]

@[simp] theorem supplied_checkOperators (i : Invocation) (earlier : List PublicKey) (operators : List Operator) :
    Supplied (i.checkOperators earlier operators) := by
  induction operators generalizing earlier with
  | nil => simp [checkOperators]
  | cons o rest ih => simp [checkOperators, ih]

@[simp] theorem supplied_operators (i : Invocation) : Supplied i.operators := by
  simp [operators]

theorem supplied_operator (h : i.context.has "operator" = true) : Supplied i.operator := by
  obtain ⟨value, -, hnull, hget⟩ := Context.get_of_has h
  -- The operator is asked for twice, and the second time it is there.
  unfold operator
  rw [hget]
  refine supplied_bind.mpr ⟨supplied_mapError nofun, fun found hfound => ?_⟩
  rw [mapError_eq_ok] at hfound
  cases found with
  | none => exact absurd (Json.decode_optional_eq_none.mp hfound) hnull
  | some o => simp

end Invocation

namespace OperatorChange

theorem Arguments.supplied_read (h : i.context.has "operator" = true) : Supplied (Arguments.read i) := by
  simp [Arguments.read, Invocation.supplied_operator h]

theorem supplied_ask {α : Type} (answer : Except LedgerFault α) : Supplied (ask answer) :=
  supplied_mapError nofun

@[simp] theorem supplied_governance (i : Invocation) (ledger : LedgerReader) : Supplied (governance i ledger) := by
  unfold governance
  refine supplied_bind.mpr ⟨supplied_ask _, fun record _ => ?_⟩
  cases record with
  | none => simp [supplied_ask]
  | some m => simp

@[simp] theorem supplied_transactions (i : Invocation) (a : Arguments) (action : String) (m : Multisig)
    (count : Nat) (additions deletions : List PublicKey) (role : InnerTransaction) :
    Supplied (transactions i a action m count additions deletions role) := by
  simp [transactions]

section
variable (h : i.context.has "operator" = true)
include h

theorem supplied_synchronizeAddition (ledger : LedgerReader) : Supplied (synchronizeAddition i ledger) := by
  simp [synchronizeAddition, Arguments.supplied_read h]

theorem supplied_assembleAddition (m : Multisig) : Supplied (assembleAddition i m) := by
  simp [assembleAddition, Arguments.supplied_read h]

theorem supplied_synchronizeRemoval (ledger : LedgerReader) : Supplied (synchronizeRemoval i ledger) := by
  simp [synchronizeRemoval, Arguments.supplied_read h]

theorem supplied_assembleRemoval (m : Multisig) : Supplied (assembleRemoval i m) := by
  simp [assembleRemoval, Arguments.supplied_read h]

end

end OperatorChange

namespace CreateToken

@[simp] theorem Arguments.supplied_read (i : Invocation) : Supplied (Arguments.read i) := by
  simp [Arguments.read]

theorem supplied_assemble (i : Invocation) : Supplied (assemble i) := by
  simp [assemble]

end CreateToken

namespace Context

/-- Whether an argument is not in the register, or is there as null. -/
def Lacks (c : Context) (name : String) : Prop :=
  c.argument? name = none ∨ c.argument? name = some .null

theorem lacks_iff {c : Context} : c.Lacks name ↔ c.has name = false :=
  has_eq_false.symm

end Context

namespace Command

/-- The arguments as a command reads them once they are known to be there. -/
def readArguments (c : Command) (i : Invocation) : Except Refusal Unit :=
  match c with
  | .createToken => (CreateToken.Arguments.read i).map fun _ => ()
  | .addOperator | .removeOperator => (OperatorChange.Arguments.read i).map fun _ => ()

theorem validate_eq (c : Command) (i : Invocation) :
    c.validate i = c.requireArguments i >>= fun _ => c.readArguments i := by
  cases c with
  | _ => rfl

/-- What a command does behind the check of its arguments. -/
structure SuppliedThroughout (c : Command) (i : Invocation) : Prop where
  read : Supplied (c.readArguments i)
  synchronize : ∀ ledger, Supplied (c.synchronize i ledger)
  assemble : ∀ state, Supplied (c.assemble i state)

/-! ## The check -/

/-- The first of the options of a command that it needs and lacks. -/
def FirstLack (c : Command) (i : Invocation) (name : String) : Prop :=
  ∃ front option back, c.options = front ++ option :: back ∧ option.required = true ∧ option.name = name ∧
    i.context.Lacks name ∧ ∀ o ∈ front, o.required = true → ¬ i.context.Lacks o.name

theorem requireArguments_eq_missing {c : Command} :
    c.requireArguments i = .error (.missingArgument name) ↔ c.FirstLack i name := by
  have hfind : c.requireArguments i = .error (.missingArgument name) ↔
      (c.arguments.find? fun x => !i.context.has x) = some name := by
    unfold requireArguments
    cases c.arguments.find? fun x => !i.context.has x with
    | none => simp
    | some x => simp
  rw [hfind]
  unfold arguments FirstLack
  rw [List.find?_map, List.find?_filter, Option.map_eq_some_iff]
  simp only [List.find?_eq_some_iff_append, Function.comp, Context.lacks_iff, decide_eq_true_eq, decide_eq_false_iff_not,
    Bool.not_eq_eq_eq_not, Bool.not_true, not_and]
  constructor
  · rintro ⟨option, ⟨⟨hrequired, hlacks⟩, front, back, heq, hfront⟩, rfl⟩
    exact ⟨front, option, back, heq, hrequired, rfl, hlacks, hfront⟩
  · rintro ⟨front, option, back, heq, hrequired, rfl, hlacks, hfront⟩
    exact ⟨option, ⟨⟨hrequired, hlacks⟩, front, back, heq, hfront⟩, rfl⟩

theorem requireArguments_cases (c : Command) (i : Invocation) :
    c.requireArguments i = .ok () ∨ ∃ name, c.requireArguments i = .error (.missingArgument name) := by
  unfold requireArguments
  cases c.arguments.find? fun x => !i.context.has x with
  | none => exact .inl rfl
  | some name => exact .inr ⟨name, rfl⟩

theorem requireArguments_of_given {c : Command}
    (given : ∀ o ∈ c.options, o.required = true → ¬ i.context.Lacks o.name) : c.requireArguments i = .ok () := by
  rcases c.requireArguments_cases i with h | ⟨name, h⟩
  · exact h
  · obtain ⟨front, option, back, heq, hrequired, rfl, hlacks, -⟩ := requireArguments_eq_missing.mp h
    exact absurd hlacks (given option (by simp [heq]) hrequired)

theorem has_of_requireArguments {c : Command} (h : c.requireArguments i = .ok ()) (hname : name ∈ c.arguments) :
    i.context.has name = true := by
  unfold requireArguments at h
  cases hfind : c.arguments.find? fun x => !i.context.has x with
  | none => simpa using List.find?_eq_none.mp hfind name hname
  | some x => simp [hfind] at h

theorem suppliedThroughout_of_requireArguments {c : Command} (h : c.requireArguments i = .ok ()) :
    c.SuppliedThroughout i := by
  cases c with
  | createToken =>
    exact ⟨supplied_map.mpr (CreateToken.Arguments.supplied_read i), fun _ => supplied_ok (),
      fun _ => CreateToken.supplied_assemble i⟩
  | addOperator =>
    have hoperator : i.context.has "operator" = true := has_of_requireArguments h (by decide)
    exact ⟨supplied_map.mpr (OperatorChange.Arguments.supplied_read hoperator),
      OperatorChange.supplied_synchronizeAddition hoperator, OperatorChange.supplied_assembleAddition hoperator⟩
  | removeOperator =>
    have hoperator : i.context.has "operator" = true := has_of_requireArguments h (by decide)
    exact ⟨supplied_map.mpr (OperatorChange.Arguments.supplied_read hoperator),
      OperatorChange.supplied_synchronizeRemoval hoperator, OperatorChange.supplied_assembleRemoval hoperator⟩

theorem exists_requireArguments_error {c : Command} {o : CommandOption} (hmem : o ∈ c.options)
    (hrequired : o.required = true) (hlacks : i.context.Lacks o.name) :
    ∃ name, c.requireArguments i = .error (.missingArgument name) := by
  refine (c.requireArguments_cases i).resolve_left fun h => ?_
  have hname : o.name ∈ c.arguments := List.mem_map_of_mem (List.mem_filter.mpr ⟨hmem, hrequired⟩)
  rw [Context.lacks_iff, has_of_requireArguments h hname] at hlacks
  cases hlacks

theorem execute_eq_missing {c : Command} {ledger : LedgerReader} :
    c.execute i ledger = .error (.missingArgument name) ↔
      c.requireArguments i = .error (.missingArgument name) := by
  unfold execute
  rw [validate_eq]
  rcases c.requireArguments_cases i with h | ⟨first, h⟩
  · -- Nothing lacks, so that neither reading nor what comes after it finds anything missing.
    obtain ⟨hread, hsynchronize, hassemble⟩ := suppliedThroughout_of_requireArguments h
    have hall : Supplied (c.readArguments i >>= fun _ => c.synchronize i ledger >>= c.assemble i) :=
      supplied_bind.mpr ⟨hread, fun _ _ => supplied_bind.mpr ⟨hsynchronize ledger, fun s _ => hassemble s⟩⟩
    rw [h, ok_bind]
    exact iff_of_false (hall name) nofun
  · rw [h, error_bind, error_bind, Except.error.injEq, Except.error.injEq]

/-- A command reports a missing argument exactly when it lacks one that it needs, and names the first of
those. When it lacks none, nothing that it does says that it lacks one. -/
theorem execute_missing_iff (c : Command) (i : Invocation) :
    (∀ ledger, (∃ name, c.execute i ledger = .error (.missingArgument name)) ↔
      ∃ o ∈ c.options, o.required = true ∧ i.context.Lacks o.name) ∧
    (∀ ledger name, c.execute i ledger = .error (.missingArgument name) ↔ c.FirstLack i name) ∧
    ((∀ o ∈ c.options, o.required = true → ¬ i.context.Lacks o.name) → c.SuppliedThroughout i) := by
  simp only [execute_eq_missing]
  refine ⟨fun _ => ⟨?_, ?_⟩, fun _ _ => requireArguments_eq_missing, fun given => ?_⟩
  · rintro ⟨name, h⟩
    obtain ⟨front, option, back, heq, hrequired, rfl, hlacks, -⟩ := requireArguments_eq_missing.mp h
    exact ⟨option, by simp [heq], hrequired, hlacks⟩
  · rintro ⟨o, hmem, hrequired, hlacks⟩
    exact exists_requireArguments_error hmem hrequired hlacks
  · exact suppliedThroughout_of_requireArguments (requireArguments_of_given given)

end Command
end TokenGovernance
