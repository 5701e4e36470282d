import TokenGovernance.Proofs.Command.Admission
import TokenGovernance.Proofs.Command.Assembly

/-! # The spelling of operators

One operator can be spelled in many ways, and no command tells them apart: with the operators in its arguments
spelled anew, it comes to what it came to before. So an operator that is there for the second time, or is the
governed account, is found out in every spelling.
-/

namespace TokenGovernance

open Outcome OperatorChange

/-! ## Other arguments -/

namespace Invocation

/-- The invocation with another register. -/
def withArguments (i : Invocation) (arguments : List (String × Json)) : Invocation :=
  { i with context := { i.context with arguments } }

/-- The invocation with a value for an argument, in place of the one that it had. -/
def withArgument (i : Invocation) (name : String) (value : Json) : Invocation :=
  i.withArguments (Keyed.insert name value i.context.arguments)

theorem value_withArgument (i : Invocation) (name : String) (value : Json) (other : String) :
    (i.withArgument name value).context.value other = if other = name then value else i.context.value other := by
  change (Keyed.find? other (Keyed.insert name value i.context.arguments)).getD .null = _
  rw [Keyed.find?_insert]
  by_cases h : other = name
  · rw [if_pos h, if_pos h]
    rfl
  · rw [if_neg h, if_neg h]
    rfl

theorem checkOperators_withArguments (i : Invocation) (arguments : List (String × Json)) (earlier : List PublicKey)
    (operators : List Operator) :
    (i.withArguments arguments).checkOperators earlier operators = i.checkOperators earlier operators := by
  induction operators generalizing earlier with
  | nil => rfl
  | cons o rest ih =>
    rw [checkOperators, checkOperators, ih]
    rfl

end Invocation

/-! ## Values in place of others -/

namespace Operator

/-- A value in place of another: the same, or one that spells the same operator. -/
inductive Respells : Json → Json → Prop
  | same (j : Json) : Respells j j
  | anew {j j' : Json} {o : Operator} (h : Spells j o) (h' : Spells j' o) : Respells j j'

/-- An argument in place of another of its name. The operators in it may be spelled anew, and nothing else. -/
inductive RespellsArgument (name : String) : Json → Json → Prop
  | same (j : Json) : RespellsArgument name j j
  | operator {j j' : Json} (hname : name = "operator") (h : Respells j j') : RespellsArgument name j j'
  | operators {items items' : List Json} (hname : name = "operators") (h : List.Forall₂ Respells items items') :
      RespellsArgument name (.array items) (.array items')

/-- A register in place of another, with the same names in it. -/
def RespellsRegister (arguments arguments' : List (String × Json)) : Prop :=
  ∀ name, Option.Rel (RespellsArgument name) (Keyed.find? name arguments) (Keyed.find? name arguments')

variable {j j' : Json} {name : String}

theorem Spells.isNull_eq {o : Operator} (h : Spells j o) : j.isNull = false := by
  cases h with
  | bare => rfl
  | full => rfl

theorem Respells.decode_eq (h : Respells j j') : Json.decode decoder j = Json.decode decoder j' := by
  cases h with
  | same => rfl
  | anew h h' => rw [decode_eq_ok.mpr h, decode_eq_ok.mpr h']

theorem Respells.isNull_eq (h : Respells j j') : j.isNull = j'.isNull := by
  cases h with
  | same => rfl
  | anew h h' => rw [h.isNull_eq, h'.isNull_eq]

theorem Respells.decode_optional_eq (h : Respells j j') :
    Json.decode decoder.optional j = Json.decode decoder.optional j' := by
  cases h with
  | same => rfl
  | anew h h' =>
    rw [Json.decode_optional h.isNull_eq, Json.decode_optional h'.isNull_eq, decode_eq_ok.mpr h,
      decode_eq_ok.mpr h']

theorem mapM_decode_congr {items items' : List Json} (h : List.Forall₂ Respells items items') :
    items.mapM (Json.decode decoder) = items'.mapM (Json.decode decoder) := by
  induction h with
  | nil => rfl
  | cons hitem _ ih => rw [List.mapM_cons, List.mapM_cons, hitem.decode_eq, ih]

namespace RespellsArgument

theorem isNull_eq (h : RespellsArgument name j j') : j.isNull = j'.isNull := by
  cases h with
  | same => rfl
  | operator _ h => exact h.isNull_eq
  | operators => rfl

theorem eq_of_ne (h : RespellsArgument name j j') (hone : name ≠ "operator") (hlist : name ≠ "operators") :
    j = j' := by
  cases h with
  | same => rfl
  | operator hname => exact absurd hname hone
  | operators hname => exact absurd hname hlist

theorem decode_operator (h : RespellsArgument "operator" j j') :
    Json.decode (Wire.decoder : Json.Decoder (Option Operator)) j = Json.decode Wire.decoder j' := by
  cases h with
  | same => rfl
  | operator _ h => exact h.decode_optional_eq
  | operators hname => exact absurd hname (by decide)

theorem decode_operators (h : RespellsArgument "operators" j j') :
    Json.decode (Wire.decoder : Json.Decoder (List Operator)) j = Json.decode Wire.decoder j' := by
  cases h with
  | same => rfl
  | operator hname => exact absurd hname (by decide)
  | operators _ h =>
    change Json.decode decoder.list _ = Json.decode decoder.list _
    rw [Json.decode_list, Json.decode_list]
    exact mapM_decode_congr h

end RespellsArgument

namespace RespellsRegister

variable {i : Invocation} {arguments : List (String × Json)} (h : RespellsRegister i.context.arguments arguments)

include h

theorem value (name : String) :
    RespellsArgument name (i.context.value name) ((i.withArguments arguments).context.value name) := by
  have hname := h name
  change RespellsArgument name ((Keyed.find? name i.context.arguments).getD .null)
    ((Keyed.find? name arguments).getD .null)
  generalize Keyed.find? name i.context.arguments = found at hname ⊢
  generalize Keyed.find? name arguments = found' at hname ⊢
  cases hname with
  | none => exact .same .null
  | some h => exact h

/-! ## What a command reads -/

theorem has_eq (name : String) : (i.withArguments arguments).context.has name = i.context.has name := by
  rw [Context.has_eq, Context.has_eq, (h.value name).isNull_eq]

theorem get_eq {α : Type} {name : String} (hone : name ≠ "operator") (hlist : name ≠ "operators")
    (d : Json.Decoder α) (absent : α) :
    (i.withArguments arguments).context.get d name absent = i.context.get d name absent := by
  rw [Context.get_eq, Context.get_eq, (h.value name).eq_of_ne hone hlist]

theorem get_operator_eq : (i.withArguments arguments).context.get Wire.decoder "operator" (none : Option Operator) =
    i.context.get Wire.decoder "operator" none := by
  rw [Context.get_eq, Context.get_eq, (h.value "operator").isNull_eq, (h.value "operator").decode_operator]

theorem get_operators_eq : (i.withArguments arguments).context.get Wire.decoder "operators" ([] : List Operator) =
    i.context.get Wire.decoder "operators" [] := by
  rw [Context.get_eq, Context.get_eq, (h.value "operators").isNull_eq, (h.value "operators").decode_operators]

theorem identifier_eq : (i.withArguments arguments).identifier = i.identifier := by
  unfold Invocation.identifier Invocation.seed
  rw [h.get_eq (by decide) (by decide)]
  rfl

theorem operators_eq : (i.withArguments arguments).operators = i.operators := by
  unfold Invocation.operators
  simp only [h.get_operators_eq, Invocation.checkOperators_withArguments]

theorem operator_eq : (i.withArguments arguments).operator = i.operator := by
  unfold Invocation.operator
  rw [h.get_operator_eq]
  rfl

theorem read_creation_eq : CreateToken.Arguments.read (i.withArguments arguments) = CreateToken.Arguments.read i := by
  unfold CreateToken.Arguments.read
  rw [h.get_eq (by decide) (by decide), h.get_eq (by decide) (by decide), h.get_eq (by decide) (by decide),
    h.identifier_eq, h.operators_eq]

theorem read_change_eq : Arguments.read (i.withArguments arguments) = Arguments.read i := by
  unfold Arguments.read
  rw [h.identifier_eq, h.operator_eq]

theorem requireArguments_eq (c : Command) :
    c.requireArguments (i.withArguments arguments) = c.requireArguments i := by
  unfold Command.requireArguments
  simp only [h.has_eq]

/-! ## What a command does -/

theorem validate_eq (c : Command) : c.validate (i.withArguments arguments) = c.validate i := by
  unfold Command.validate
  rw [h.requireArguments_eq]
  cases c with
  | createToken => simp only [h.read_creation_eq]
  | addOperator => simp only [h.read_change_eq]
  | removeOperator => simp only [h.read_change_eq]

theorem assemble_creation_eq :
    Command.createToken.assemble (i.withArguments arguments) = Command.createToken.assemble i := by
  funext state
  change CreateToken.assemble _ = CreateToken.assemble _
  unfold CreateToken.assemble
  rw [h.read_creation_eq]
  rfl

theorem execute_creation_eq (ledger : LedgerReader) :
    Command.createToken.execute (i.withArguments arguments) ledger = Command.createToken.execute i ledger := by
  unfold Command.execute
  rw [h.validate_eq, h.assemble_creation_eq]
  rfl

theorem execute_change_eq (k : Kind) (ledger : LedgerReader) :
    k.command.execute (i.withArguments arguments) ledger = k.command.execute i ledger := by
  cases hvalid : k.command.validate i with
  | error refusal =>
    rw [Kind.execute_of_validate_error hvalid, Kind.execute_of_validate_error ((h.validate_eq _).trans hvalid)]
  | ok _ =>
    obtain ⟨a, hread⟩ := k.validate_eq_ok.mp hvalid
    -- The verdict asks for no argument but those that were read.
    rw [k.execute_of_read hread, k.execute_of_read (h.read_change_eq.trans hread)]
    rfl

theorem execute_eq (c : Command) (ledger : LedgerReader) :
    c.execute (i.withArguments arguments) ledger = c.execute i ledger := by
  cases c with
  | createToken => exact h.execute_creation_eq ledger
  | addOperator => exact h.execute_change_eq .add ledger
  | removeOperator => exact h.execute_change_eq .remove ledger

end RespellsRegister

theorem respellsRegister_insert {arguments : List (String × Json)} (hname : Keyed.find? name arguments = some j)
    (h : RespellsArgument name j j') : RespellsRegister arguments (Keyed.insert name j' arguments) := by
  intro other
  rw [Keyed.find?_insert]
  by_cases hother : other = name
  · rw [if_pos hother, hother, hname]
    exact .some h
  · rw [if_neg hother]
    cases Keyed.find? other arguments with
    | none => exact .none
    | some value => exact .some (.same value)

end Operator

/-! ## Operators that must not be there -/

namespace Invocation

variable {i : Invocation} {items : List Json} {operators : List Operator} {refusal : Refusal}

theorem get_withArgument {α : Type} {name other : String} (hne : other ≠ name) (value : Json) (d : Json.Decoder α)
    (absent : α) : (i.withArgument name value).context.get d other absent = i.context.get d other absent := by
  rw [Context.get_eq, Context.get_eq, value_withArgument, if_neg hne]

theorem identifier_withArgument {name : String} (hne : "identifier" ≠ name) (value : Json) :
    (i.withArgument name value).identifier = i.identifier := by
  unfold identifier seed
  rw [get_withArgument hne]
  rfl

theorem get_operators_eq_ok :
    (i.withArgument "operators" (.array items)).context.get Wire.decoder "operators" [] = .ok operators ↔
      List.Forall₂ Operator.Spells items operators := by
  have hvalue : (i.withArgument "operators" (.array items)).context.value "operators" = .array items := by
    rw [value_withArgument, if_pos rfl]
  rw [CreateToken.get_operators_eq (by rw [hvalue]; rfl), hvalue, Operator.forall₂_spells_iff]
  change (if _ then _ else _) = _ ↔ _
  rw [refuse_eq_ok, Except.ok.injEq, Bool.not_eq_true]

theorem operators_eq_error (h : List.Forall₂ Operator.Spells items operators)
    (hcheck : i.checkOperators [] operators = .error refusal) :
    (i.withArgument "operators" (.array items)).operators = .error refusal := by
  unfold Invocation.operators
  rw [get_operators_eq_ok.mpr h, ok_bind]
  unfold withArgument
  rw [checkOperators_withArguments, hcheck, error_bind]

theorem exists_accepted {ledger : LedgerReader} {transactions : List InnerTransaction}
    (h : Command.createToken.execute (i.withArgument "operators" (.array items)) ledger = .ok transactions) :
    ∃ operators, List.Forall₂ Operator.Spells items operators ∧ i.AcceptsOperators operators := by
  obtain ⟨a, hreads⟩ := CreateToken.reads_of_execute h
  obtain ⟨htwo, hmax, hrole, htarget, hnodup⟩ := hreads.accepted
  exact ⟨a.operators, get_operators_eq_ok.mp hreads.operators, htwo, hmax, hrole, htarget, hnodup⟩

/-- What may be wrong with a creation before its operators are looked at. -/
def earlierObjections (i : Invocation) : List Objection :=
  CreateToken.missingObjections i.context ++
    [⟨(i.context.value "name").text?.isNone, CreateToken.mistyped "name" (i.context.value "name") "a string"⟩] ++
    CreateToken.sourceObjections (i.context.value "source") ++
    CreateToken.identifierObjections (i.context.value "identifier") ++
    CreateToken.supplyObjections (i.context.value "supply")

theorem objections_eq (i : Invocation) : CreateToken.objections i = i.earlierObjections ++
    CreateToken.operatorsObjections i.target.key (i.context.value "operators") ++
    CreateToken.nameObjections ((i.context.value "name").text?.getD "") :=
  rfl

theorem earlierObjections_withArgument (items items' : List Json) :
    (i.withArgument "operators" (.array items)).earlierObjections =
      (i.withArgument "operators" (.array items')).earlierObjections := by
  unfold earlierObjections CreateToken.missingObjections
  simp only [value_withArgument, List.map_cons, List.map_nil, String.reduceEq, if_false, if_true, Json.isNull]

theorem execute_of_operators_error
    (valid : Command.createToken.validate (i.withArgument "operators" (.array items)) = .ok ()) {items' : List Json}
    (h : (i.withArgument "operators" (.array items')).operators = .error refusal) (ledger : LedgerReader) :
    Command.createToken.execute (i.withArgument "operators" (.array items')) ledger = .error refusal := by
  have hgiven : ((i.withArgument "operators" (.array items')).context.value "operators").isNull = false := by
    rw [value_withArgument]
    rfl
  have hoperators := CreateToken.decidedBy_operators hgiven
  unfold DecidedBy at hoperators
  rw [h, error_bind] at hoperators
  rw [CreateToken.validate_eq_settle, settle_eq_ok, objections_eq, clear_append, clear_append] at valid
  have hearlier := valid.1.1
  rw [earlierObjections_withArgument items items'] at hearlier
  unfold Command.execute
  rw [CreateToken.validate_eq_settle, objections_eq, settle_append, settle_append, settle_eq_ok.mpr hearlier, ok_bind,
    ← hoperators, error_bind, error_bind]

/-- Values that spell operators with which nothing is wrong, be they few or many. -/
structure Sound (i : Invocation) (items : List Json) (operators : List Operator) : Prop where
  spells : List.Forall₂ Operator.Spells items operators
  role : ∀ o ∈ operators, o.role = .operator
  not_target : ∀ o ∈ operators, o.key ≠ i.target.key
  nodup : (operators.map (·.key)).Nodup

theorem Sound.checkOperators (h : i.Sound items operators) : i.checkOperators [] operators = .ok () :=
  checkOperators_eq_ok.mpr ⟨fun o ho => ⟨h.role o ho, h.not_target o ho, List.not_mem_nil⟩, h.nodup⟩

theorem Sound.mem (h : i.Sound items operators) {item : Json} (hitem : item ∈ items) {o : Operator}
    (ho : Operator.Spells item o) : o ∈ operators :=
  Operator.mem_of_spells h.spells hitem ho

/-! ### A key that is there twice -/

/-- A creation that has a key twice, in whatever spellings, is refused. It is refused for that when nothing is wrong
with the operators in front of the second spelling, and the creation is valid with other operators. -/
structure RefusesRepeated (i : Invocation) : Prop where
  never : ∀ items a b key role role', [a, b].Sublist items → Operator.Spells a ⟨key, role⟩ →
    Operator.Spells b ⟨key, role'⟩ → ∀ ledger transactions,
      Command.createToken.execute (i.withArgument "operators" (.array items)) ledger ≠ .ok transactions
  reported : ∀ others front back before after a b key,
    Command.createToken.validate (i.withArgument "operators" (.array others)) = .ok () →
    i.Sound front before → List.Forall₂ Operator.Spells back after → a ∈ front →
    Operator.Spells a (.ofKey key) → Operator.Spells b (.ofKey key) → ∀ ledger,
      Command.createToken.execute (i.withArgument "operators" (.array (front ++ b :: back))) ledger =
        .error (.invalidArgument "operators" (.duplicateOperator key))

theorem not_accepted_of_twice {key : PublicKey} {role role' : Role}
    (h : [(⟨key, role⟩ : Operator), ⟨key, role'⟩].Sublist operators) : ¬ i.AcceptsOperators operators := by
  intro haccepted
  have hkeys : [key, key].Sublist (operators.map (·.key)) := h.map Operator.key
  exact List.nodup_iff_sublist.mp haccepted.nodup key hkeys

theorem refusesRepeated (i : Invocation) : i.RefusesRepeated where
  never := by
    intro items a b key role role' hsub ha hb ledger transactions hexecute
    obtain ⟨operators, hspells, haccepted⟩ := exists_accepted hexecute
    exact not_accepted_of_twice (Operator.sublist_of_spells hspells (.cons ha (.cons hb .nil)) hsub) haccepted
  reported := by
    intro others front back before after a b key valid hfront hback hmem ha hb ledger
    have hlisted := hfront.mem hmem ha
    have hcheck : i.checkOperator "operators" (.ofKey key) = .ok () :=
      checkOperator_eq_ok.mpr ⟨rfl, hfront.not_target _ hlisted⟩
    have hrepeated := checkOperators_of_repeated hfront.checkOperators hcheck (List.mem_map_of_mem hlisted) after
    exact execute_of_operators_error valid
      (operators_eq_error (List.rel_append hfront.spells (.cons hb hback)) hrepeated) ledger

/-! ### The governed account -/

/-- A command that has the governed account for an operator, in whatever spelling, is refused. It is refused for that
when nothing is wrong with what is looked at earlier. -/
structure RefusesTarget (i : Invocation) : Prop where
  never : ∀ items item role, item ∈ items → Operator.Spells item ⟨i.target.key, role⟩ → ∀ ledger transactions,
    Command.createToken.execute (i.withArgument "operators" (.array items)) ledger ≠ .ok transactions
  reported : ∀ others front back before after item,
    Command.createToken.validate (i.withArgument "operators" (.array others)) = .ok () →
    i.Sound front before → List.Forall₂ Operator.Spells back after → Operator.Spells item (.ofKey i.target.key) →
    ∀ ledger, Command.createToken.execute (i.withArgument "operators" (.array (front ++ item :: back))) ledger =
      .error (.invalidArgument "operators" .selfCosigning)
  change_never : ∀ (k : Kind) j role, Operator.Spells j ⟨i.target.key, role⟩ → ∀ ledger transactions,
    k.command.execute (i.withArgument "operator" j) ledger ≠ .ok transactions
  change_reported : ∀ (k : Kind) j token, i.identifier = .ok token → Operator.Spells j (.ofKey i.target.key) →
    ∀ ledger, k.command.execute (i.withArgument "operator" j) ledger =
      .error (.invalidArgument "operator" .selfCosigning)

theorem checkOperator_target (i : Invocation) (argument : String) :
    i.checkOperator argument (.ofKey i.target.key) = .error (.invalidArgument argument .selfCosigning) := by
  have hrole : ¬ (Operator.ofKey i.target.key).role ≠ .operator := not_not.mpr rfl
  unfold checkOperator
  rw [if_neg hrole]
  exact if_pos rfl

theorem get_operator_eq {j : Json} {o : Operator} (h : Operator.Spells j o) :
    (i.withArgument "operator" j).context.get Wire.decoder "operator" none = .ok (some o) := by
  have hdecode : Json.decode (Wire.decoder : Json.Decoder (Option Operator)) j = .ok (some o) := by
    change Json.decode Operator.decoder.optional j = _
    rw [Json.decode_optional h.isNull_eq, Operator.decode_eq_ok.mpr h]
    rfl
  rw [Context.get_eq, value_withArgument, if_pos rfl, h.isNull_eq, if_neg Bool.false_ne_true, hdecode]
  rfl

theorem operator_eq_error {j : Json} {o : Operator} (h : Operator.Spells j o)
    (hcheck : i.checkOperator "operator" o = .error refusal) :
    (i.withArgument "operator" j).operator = .error refusal := by
  have hcheck' : (i.withArgument "operator" j).checkOperator "operator" o = .error refusal := hcheck
  unfold operator
  rw [get_operator_eq h, ok_bind]
  dsimp only
  rw [hcheck', error_bind]

theorem requireArguments_of_identifier {k : Kind} {j : Json} {o : Operator} (h : Operator.Spells j o)
    {token : TokenIdentifier} (htoken : i.identifier = .ok token) :
    k.command.requireArguments (i.withArgument "operator" j) = .ok () := by
  have harguments : k.command.arguments = ["identifier", "operator"] := by
    cases k with
    | add => rfl
    | remove => rfl
  rw [← identifier_withArgument (show "identifier" ≠ "operator" by decide) j] at htoken
  obtain ⟨seed, -, hseed, -⟩ := identifier_eq_ok.mp htoken
  have hgiven : (i.withArgument "operator" j).context.has "operator" = true := by
    rw [Context.has_eq, value_withArgument, if_pos rfl, h.isNull_eq]
    rfl
  unfold Command.requireArguments
  rw [harguments, List.find?_cons, has_of_seed hseed, List.find?_cons, hgiven]
  rfl

theorem execute_of_operator_error {k : Kind} {j : Json} {o : Operator} (h : Operator.Spells j o)
    {token : TokenIdentifier} (htoken : i.identifier = .ok token)
    (hcheck : i.checkOperator "operator" o = .error refusal) (ledger : LedgerReader) :
    k.command.execute (i.withArgument "operator" j) ledger = .error refusal := by
  apply Kind.execute_of_validate_error
  rw [Kind.validate_eq (requireArguments_of_identifier h htoken)]
  unfold Arguments.read
  rw [identifier_withArgument (by decide), htoken, ok_bind, operator_eq_error h hcheck, error_bind, error_bind]

theorem refusesTarget (i : Invocation) : i.RefusesTarget where
  never := by
    intro items item role hmem hitem ledger transactions hexecute
    obtain ⟨operators, hspells, haccepted⟩ := exists_accepted hexecute
    exact haccepted.not_target _ (Operator.mem_of_spells hspells hmem hitem) rfl
  reported := by
    intro others front back before after item valid hfront hback hitem ledger
    have hrefused := checkOperators_of_refused hfront.checkOperators (i.checkOperator_target "operators") after
    exact execute_of_operators_error valid
      (operators_eq_error (List.rel_append hfront.spells (.cons hitem hback)) hrefused) ledger
  change_never := by
    intro k j role h ledger transactions hexecute
    cases hvalid : k.command.validate (i.withArgument "operator" j) with
    | error refusal =>
      rw [Kind.execute_of_validate_error hvalid] at hexecute
      cases hexecute
    | ok _ =>
      obtain ⟨a, hread⟩ := k.validate_eq_ok.mp hvalid
      obtain ⟨-, hoperator⟩ := Arguments.read_eq_ok.mp hread
      obtain ⟨hget, -, hself⟩ := operator_eq_ok.mp hoperator
      have hsame := Option.some.inj (Except.ok.inj ((get_operator_eq h).symm.trans hget))
      exact hself (congrArg Operator.key hsame).symm
  change_reported := by
    intro k j token htoken h ledger
    exact execute_of_operator_error h htoken (i.checkOperator_target "operator") ledger

end Invocation

/-! ## All spellings -/

namespace Operator

/-- However an operator is spelled, it is the same to every command. Its key may be spelled alone, or in an object with
other members, in any mix of cases and with blanks around it; what is written of an operator spells it as well. With
operators spelled anew a command comes to the same, and no spelling hides an operator that must not be there. -/
theorem spelling_immaterial :
    (∀ (key : PublicKey) (text : String), key.Spelled text → ReadsAs (.string text) (ofKey key) ∧
      ∀ members : List (String × Json), ((members.map (·.1)).filter (· ∈ ["public_key", "role"])).Nodup →
        members.lookup "public_key" = some (.string text) →
        (members.lookup "role" = none ∨ members.lookup "role" = some (.string "operator")) →
        ReadsAs (.object members) (ofKey key)) ∧
    (∀ (j : Json) (o : Operator), Json.decode decoder j = .ok o ↔ Spells j o) ∧
    (∀ o : Operator, Wire.Reloads o) ∧
    (∀ (c : Command) (i : Invocation) (arguments : List (String × Json)),
      RespellsRegister i.context.arguments arguments →
        ∀ ledger, c.execute (i.withArguments arguments) ledger = c.execute i ledger) ∧
    ∀ i : Invocation, i.RefusesRepeated ∧ i.RefusesTarget := by
  refine ⟨fun key text htext => ⟨readsAs_string htext.toUpper_trim, fun members honce hkey hrole => ?_⟩,
    fun _ _ => decode_eq_ok, LawfulWire.reloads (by decide), fun c i arguments h => h.execute_eq c,
    fun i => ⟨i.refusesRepeated, i.refusesTarget⟩⟩
  have htold : (ofKey key).Told members := by
    refine ⟨honce, ⟨text, hkey, htext.toUpper_trim⟩, ?_⟩
    rcases hrole with hnone | hoperator
    · exact .inr ⟨hnone, rfl⟩
    · exact .inl hoperator
  exact htold.readsAs

end Operator

/-! ## A sample -/

namespace Sample

/-- The digits of a key in both cases, between a blank and a line break. -/
def mixed : String := " " ++ "aBaBaBaBaBaBaBaBaBaBaBaBaBaBaBaBaBaBaBaBaBaBaBaBaBaBaBaBaBaBaBaB" ++ "\n"

theorem mixed_spelled : (key 0xAB).Spelled mixed :=
  .padded " " _ "\n" (List.forall_mem_singleton.mpr rfl) (List.forall_mem_singleton.mpr rfl) (by decide +kernel)

def padded (digits : String) : String := "\t" ++ digits ++ "\u00A0"

theorem padded_spelled {k : PublicKey} {digits : String} (h : digits.toUpper = k.toHex) :
    k.Spelled (padded digits) :=
  .padded "\t" digits "\u00A0" (List.forall_mem_singleton.mpr rfl) (List.forall_mem_singleton.mpr rfl) h

/-- The operators of the creation, one with blanks, one in an object, and one with both. -/
def respelled : List Json :=
  [.string (padded second), .object [("public_key", .string third)],
    .object [("note", .bool true), ("public_key", .string (padded fourth)), ("role", .string "operator")]]

end Sample

open Sample in
/-- A key in both cases, a creation with each of its operators spelled anew, the same with an operator twice, and the
governed account as a new operator. -/
theorem Operator.spelling_immaterial_creation :
    (Sample.key 0xAB).Spelled mixed ∧ Json.decode decoder (.string mixed) = .ok (ofKey (Sample.key 0xAB)) ∧
    RespellsRegister creation.context.arguments
      (Keyed.insert "operators" (.array respelled) creation.context.arguments) ∧
    (∀ ledger, Command.createToken.execute (creation.withArgument "operators" (.array respelled)) ledger =
      Command.createToken.execute creation ledger) ∧
    (∀ ledger, Command.createToken.execute (creation.withArgument "operators"
        (.array ([.string fourth] ++ .string (padded fourth) :: [.string third]))) ledger =
      .error (.invalidArgument "operators" (.duplicateOperator (Sample.key 4)))) ∧
    ∀ ledger, Command.addOperator.execute (changing.withArgument "operator" (.string (padded target.key.toHex)))
      ledger = .error (.invalidArgument "operator" .selfCosigning) := by
  obtain ⟨hforms, hexact, -, hexecute, hrefuses⟩ := spelling_immaterial
  have hbare {k : PublicKey} {text : String} (h : k.Spelled text) :
      Json.decode decoder (.string text) = .ok (ofKey k) :=
    (hforms k text h).1 _ _ (Json.denotes_toNode _)
  have hobject {k : PublicKey} {text : String} (h : k.Spelled text) {members : List (String × Json)}
      (honce : ((members.map (·.1)).filter (· ∈ ["public_key", "role"])).Nodup)
      (hkey : members.lookup "public_key" = some (.string text))
      (hrole : members.lookup "role" = none ∨ members.lookup "role" = some (.string "operator")) :
      Spells (.object members) (ofKey k) :=
    (hexact _ _).mp ((hforms k text h).2 members honce hkey hrole _ _ (Json.denotes_toNode _))
  have hsecond : Spells (.string second) (ofKey (Sample.key 2)) := (hexact _ _).mp rfl
  have hthird : Spells (.string third) (ofKey (Sample.key 3)) := (hexact _ _).mp rfl
  have hfourth : Spells (.string fourth) (ofKey (Sample.key 4)) := (hexact _ _).mp rfl
  have hpadded : (Sample.key 4).Spelled (padded fourth) := padded_spelled (by decide +kernel)
  have hregister : RespellsRegister creation.context.arguments
      (Keyed.insert "operators" (.array respelled) creation.context.arguments) := by
    refine respellsRegister_insert rfl (.operators rfl (.cons (.anew hsecond ?_) (.cons (.anew hthird ?_)
      (.cons (.anew hfourth ?_) .nil))))
    · exact (hexact _ _).mp (hbare (padded_spelled (by decide +kernel)))
    · have hplain : (Sample.key 3).Spelled third :=
        .padded "" third "" (List.forall_mem_nil _) (List.forall_mem_nil _) (by decide +kernel)
      exact hobject hplain (by decide) rfl (.inl rfl)
    · exact hobject hpadded (by decide) rfl (.inr rfl)
  have hvalid : Command.createToken.validate (creation.withArgument "operators"
      (.array [.string second, .string third, .string fourth])) = .ok () :=
    CreateToken.validate_eq_ok.mpr ⟨arguments, creation_reads⟩
  have hsound : creation.Sound [.string fourth] [ofKey (Sample.key 4)] :=
    ⟨.cons hfourth .nil, by decide, by decide, by decide⟩
  refine ⟨mixed_spelled, hbare mixed_spelled, hregister, hexecute .createToken creation _ hregister, ?_, ?_⟩
  · exact (hrefuses creation).1.reported _ _ _ _ _ _ (.string (padded fourth)) _ hvalid hsound (.cons hthird .nil)
      List.mem_cons_self hfourth ((hexact _ _).mp (hbare hpadded))
  · have htoken : changing.identifier = .ok token := (Arguments.read_eq_ok.mp changing_read).1
    exact (hrefuses changing).2.change_reported .add _ token htoken
      ((hexact _ _).mp (hbare (padded_spelled (Hex.toUpper_encode _))))

end TokenGovernance
