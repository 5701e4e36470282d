import TokenGovernance.Proofs.Command.Decision
import TokenGovernance.Proofs.Governance.Operator
import TokenGovernance.Proofs.Json.Number
import TokenGovernance.Proofs.Token.Name

/-! # What is said against a creation

The arguments of a creation are looked at one after the other, the name first and once more last. What may be
wrong with the values that stand there is listed in this order, and the first thing that is wrong is reported.
-/

namespace TokenGovernance

open Outcome OperatorChange

/-! ## Values of arguments -/

namespace Context

/-- The value of an argument, null when it is not there. -/
def value (c : Context) (name : String) : Json :=
  (c.argument? name).getD .null

theorem has_eq (c : Context) (name : String) : c.has name = !(c.value name).isNull := by
  unfold has value
  cases c.argument? name with
  | none => rfl
  | some j => rfl

theorem get_eq {α : Type} (c : Context) (d : Json.Decoder α) (name : String) (absent : α) :
    c.get d name absent =
      if (c.value name).isNull = true then .ok absent
      else (Json.decode d (c.value name)).mapError fun fault => .invalidArgument name (.undecodable fault.flaw) := by
  unfold get value
  cases c.argument? name with
  | none => rfl
  | some j =>
    cases j with
    | null => rfl
    | _ => rfl

end Context

/-- The text that a value gives as the seed of a token. -/
def Json.seed? : Json → Option String
  | .string s => some s
  | .number n => some (String.ofList n.chars)
  | _ => none

def blank (s : String) : Bool :=
  s.toList.all Text.isBlank

theorem blank_eq_false_iff {s : String} : blank s = false ↔ ∃ c ∈ s.toList, Text.isBlank c = false := by
  unfold blank
  simp

theorem blank_iff {s : String} : blank s = true ↔ Text.trim s = "" := by
  unfold blank
  rw [Text.trim_eq_empty_iff, List.all_eq_true]

namespace CreateToken

variable {i : Invocation}

/-! ## Objections -/

/-- The refusal of an argument that is of the wrong type. -/
def mistyped (argument : String) (j : Json) (expected : String) : Refusal :=
  .invalidArgument argument (.undecodable (.wrongType j.found expected))

def missingObjections (c : Context) : List Objection :=
  ["name", "source", "identifier", "operators"].map fun argument =>
    ⟨(c.value argument).isNull, .missingArgument argument⟩

def sourceObjections (source : Json) : List Objection :=
  [⟨source.text?.isNone, mistyped "source" source "a string"⟩,
    ⟨source.text?.any blank, .invalidArgument "source" .empty⟩]

def identifierObjections (identifier : Json) : List Objection :=
  [⟨identifier.seed?.isNone, .invalidArgument "identifier" (.seed identifier.normal.compact)⟩,
    ⟨identifier.text?.any blank, .invalidArgument "identifier" .empty⟩]

def supplyObjections (supply : Json) : List Objection :=
  [⟨!supply.isNull && supply.whole?.isNone, mistyped "supply" supply "u64"⟩,
    ⟨supply.whole?.any fun n => n < 0 ∨ 18446744073709551615 < n,
      .invalidArgument "supply" (.undecodable (.wrongValue supply.found "u64"))⟩]

/-- What may be wrong with an operator behind others. -/
def operatorObjections (target : PublicKey) (front : List Operator) (o : Operator) : List Objection :=
  [⟨o.role ≠ .operator, .invalidArgument "operators" .role⟩,
    ⟨o.key = target, .invalidArgument "operators" .selfCosigning⟩,
    ⟨o.key ∈ front.map (·.key), .invalidArgument "operators" (.duplicateOperator o.key)⟩]

/-- The operators that the items of a value spell, as far as they spell any. -/
def roster (operators : Json) : List Operator :=
  (operators.items?.getD []).filterMap Operator.ofJson?

def operatorsObjections (target : PublicKey) (operators : Json) : List Objection :=
  let roster := roster operators
  [⟨operators.items?.isNone, mistyped "operators" operators "a sequence"⟩,
    ⟨operators.items?.any fun items => items.any fun item => (Operator.ofJson? item).isNone,
      .invalidArgument "operators" (.undecodable (.noVariant "OperatorRepr"))⟩] ++
  (roster.mapIdx fun j o => operatorObjections target (roster.take j) o).flatten ++
  [⟨roster.length < 2, .tooFewOperators roster.length⟩,
    ⟨25 < roster.length, .invalidArgument "operators" (.operatorCount roster.length)⟩]

def nameObjections (name : String) : List Objection :=
  let parts := TokenName.split name
  ⟨3 < parts.length, .invalidArgument "name" (.levels parts.length)⟩ ::
    parts.map fun part => ⟨¬ TokenName.IsSegment part, .invalidArgument "name" (.segment part)⟩

/-- What may be wrong with a creation, in the order in which it is looked at. The name comes first, for being a
text, and last, for what it says. -/
def objections (i : Invocation) : List Objection :=
  let value := i.context.value
  missingObjections i.context ++ [⟨(value "name").text?.isNone, mistyped "name" (value "name") "a string"⟩] ++
    sourceObjections (value "source") ++ identifierObjections (value "identifier") ++
    supplyObjections (value "supply") ++ operatorsObjections i.target.key (value "operators") ++
    nameObjections ((value "name").text?.getD "")

/-! ## Single arguments -/

theorem get_string_eq {c : Context} {argument : String} (h : (c.value argument).isNull = false) :
    c.get .string argument "" =
      orRefuse (c.value argument).text? (mistyped argument (c.value argument) "a string") := by
  rw [Context.get_eq, h, if_neg Bool.false_ne_true, Json.decode_string]
  cases (c.value argument).text? with
  | none => rfl
  | some s => rfl

theorem decidedBy_string {c : Context} {argument : String} (h : (c.value argument).isNull = false) :
    DecidedBy [⟨(c.value argument).text?.isNone, mistyped argument (c.value argument) "a string"⟩]
      (c.get .string argument "") := by
  rw [get_string_eq h]
  exact .orRefuse _ _

theorem decidedBy_ofText (s : String) :
    DecidedBy [⟨blank s, .invalidArgument "source" .empty⟩] (TokenSource.ofText s) := by
  unfold TokenSource.ofText
  by_cases h : Text.trim s = ""
  · rw [dif_neg (not_not.mpr h), blank_iff.mpr h]
    rfl
  · rw [dif_pos h, Bool.eq_false_iff.mpr fun hblank => h (blank_iff.mp hblank)]
    rfl

theorem decidedBy_source (h : (i.context.value "source").isNull = false) :
    DecidedBy (sourceObjections (i.context.value "source"))
      (i.context.get .string "source" "" >>= TokenSource.ofText) := by
  refine (decidedBy_string h).bind fun s hs => ?_
  rw [get_string_eq h, orRefuse_eq_ok] at hs
  rw [hs]
  exact decidedBy_ofText s

theorem seed_eq (h : (i.context.value "identifier").isNull = false) :
    i.seed = orRefuse (i.context.value "identifier").seed?
      (.invalidArgument "identifier" (.seed (i.context.value "identifier").normal.compact)) := by
  unfold Invocation.seed
  rw [Context.get_eq, h, if_neg Bool.false_ne_true, Json.decode_any]
  cases i.context.value "identifier" with
  | _ => rfl

theorem decidedBy_ofSeed (s : String) :
    DecidedBy [⟨blank s, .invalidArgument "identifier" .empty⟩] (TokenNonce.ofSeed s) := by
  cases h : blank s with
  | true =>
    unfold TokenNonce.ofSeed
    rw [blank_iff.mp h]
    rfl
  | false =>
    obtain ⟨n, hn⟩ := TokenNonce.exists_ofSeed_iff.mpr (blank_eq_false_iff.mp h)
    rw [hn]
    rfl

theorem any_blank_of_seed? {j : Json} {s : String} (h : j.seed? = some s) : j.text?.any blank = blank s := by
  cases j with
  | string t => rw [Option.some.inj h, Json.text?, Option.any_some]
  | number n =>
    have hvisible : blank s = false := by
      rw [← Option.some.inj h, blank_eq_false_iff, String.toList_ofList]
      exact n.exists_visible
    rw [hvisible]
    rfl
  | _ => cases h

theorem decidedBy_identifier (h : (i.context.value "identifier").isNull = false) :
    DecidedBy (identifierObjections (i.context.value "identifier")) i.identifier := by
  unfold Invocation.identifier
  rw [seed_eq h]
  refine (DecidedBy.orRefuse _ _).bind fun s hs => ?_
  rw [any_blank_of_seed? (orRefuse_eq_ok.mp hs)]
  exact (decidedBy_ofSeed s).map _

theorem decidedBy_supply (c : Context) :
    DecidedBy (supplyObjections (c.value "supply")) (c.get .u64 "supply" Limits.defaultSupply) := by
  rw [Context.get_eq, Json.decode_u64]
  cases c.value "supply" with
  | null => rfl
  | number n =>
    cases n with
    | whole n =>
      have hrange : decide (n < 0 ∨ 18446744073709551615 < n) = !decide (0 ≤ n ∧ n ≤ 18446744073709551615) := by
        rw [← decide_not, decide_eq_decide]
        omega
      unfold supplyObjections
      simp only [Json.whole?, Option.any_some, hrange]
      by_cases h : 0 ≤ n ∧ n ≤ 18446744073709551615
      · rw [if_pos h, decide_eq_true h]
        rfl
      · rw [if_neg h, decide_eq_false h]
        rfl
    | double x => rfl
  | _ => rfl

/-! ## Operators -/

theorem get_operators_eq (h : (i.context.value "operators").isNull = false) :
    i.context.get (Wire.decoder : Json.Decoder (List Operator)) "operators" [] =
      (orRefuse (i.context.value "operators").items?
        (mistyped "operators" (i.context.value "operators") "a sequence")) >>= fun items =>
      if items.any fun item => (Operator.ofJson? item).isNone then
        .error (.invalidArgument "operators" (.undecodable (.noVariant "OperatorRepr")))
      else .ok (items.filterMap Operator.ofJson?) := by
  rw [Context.get_eq, h, if_neg Bool.false_ne_true]
  change (Json.decode (Json.Decoder.list Operator.decoder) _).mapError _ = _
  rw [Json.decode_list]
  cases (i.context.value "operators").items? with
  | none => rfl
  | some items =>
    dsimp only
    rw [Operator.mapM_decode]
    change _ = if _ then _ else _
    split
    · rfl
    · rfl

theorem roster_of_get (h : (i.context.value "operators").isNull = false) {operators : List Operator}
    (hget : i.context.get Wire.decoder "operators" [] = .ok operators) :
    roster (i.context.value "operators") = operators := by
  rw [get_operators_eq h] at hget
  obtain ⟨items, hitems, hread⟩ := bind_eq_ok.mp hget
  rw [refuse_eq_ok, Except.ok.injEq] at hread
  unfold roster
  rw [orRefuse_eq_ok.mp hitems]
  exact hread.2

theorem decidedBy_checkOperators (front : List Operator) {earlier : List PublicKey}
    (h : ∀ key, key ∈ earlier ↔ key ∈ front.map (·.key)) (operators : List Operator) :
    DecidedBy (operators.mapIdx fun j o => operatorObjections i.target.key (front ++ operators.take j) o).flatten
      (i.checkOperators earlier operators) := by
  -- What stands in front grows with every operator, as the keys that were met do.
  induction operators generalizing front earlier with
  | nil => exact .ok ()
  | cons o rest ih =>
    have hnext : ∀ key, key ∈ o.key :: earlier ↔ key ∈ (front ++ [o]).map (·.key) := by
      intro key
      rw [List.map_append, List.mem_append, List.mem_cons, h key, List.map_singleton, List.mem_singleton, or_comm]
    have hfront (j : Nat) : front ++ (o :: rest).take (j + 1) = front ++ [o] ++ rest.take j := by
      rw [List.take_succ_cons, List.append_assoc, List.singleton_append]
    simp only [List.mapIdx_cons, hfront, List.flatten_cons, List.take_zero, List.append_nil]
    have hcheck : DecidedBy
        [⟨decide (o.role ≠ .operator), .invalidArgument "operators" .role⟩,
          ⟨decide (o.key = i.target.key), .invalidArgument "operators" .selfCosigning⟩]
        (i.checkOperator "operators" o) :=
      .refuse decide_eq_true_iff _ fun _ => .refuse decide_eq_true_iff _ fun _ => .ok ()
    rw [Invocation.checkOperators]
    simp only [throw_eq, error_bind]
    refine hcheck.bind fun _ _ => ?_
    exact .refuse (decide_eq_true_iff.trans (h o.key).symm) _ fun _ => ih _ hnext

theorem decidedBy_operators (h : (i.context.value "operators").isNull = false) :
    DecidedBy (operatorsObjections i.target.key (i.context.value "operators")) i.operators := by
  have hget : DecidedBy
      [⟨(i.context.value "operators").items?.isNone,
          mistyped "operators" (i.context.value "operators") "a sequence"⟩,
        ⟨(i.context.value "operators").items?.any fun items => items.any fun item =>
            (Operator.ofJson? item).isNone,
          .invalidArgument "operators" (.undecodable (.noVariant "OperatorRepr"))⟩]
      (i.context.get (Wire.decoder : Json.Decoder (List Operator)) "operators" []) := by
    rw [get_operators_eq h]
    refine (DecidedBy.orRefuse _ _).bind fun items hitems => ?_
    rw [orRefuse_eq_ok.mp hitems, Option.any_some]
    exact .refuse Iff.rfl _ fun _ => .ok _
  unfold operatorsObjections Invocation.operators
  rw [List.append_assoc]
  refine hget.bind fun operators hoperators => ?_
  rw [roster_of_get h hoperators]
  refine (decidedBy_checkOperators [] (fun _ => Iff.rfl) operators).bind fun _ _ => ?_
  simp only [throw_eq, error_bind]
  exact .refuse decide_eq_true_iff _ fun _ => .refuse decide_eq_true_iff _ fun _ => .ok _

/-! ## Names -/

theorem decidedBy_segments (name : String) :
    DecidedBy (nameObjections name) (TokenName.segments name) := by
  have hfind : (fun part => !TokenName.isSegment part) = fun part => decide (¬ TokenName.IsSegment part) := by
    funext part
    rw [decide_not, ← Bool.decide_coe (TokenName.isSegment part), decide_eq_decide.mpr TokenName.isSegment_iff]
  unfold TokenName.segments
  refine .refuse decide_eq_true_iff _ fun _ => ?_
  unfold DecidedBy
  rw [settle_map, hfind]
  cases (TokenName.split name).find? fun part => decide (¬ TokenName.IsSegment part) with
  | none => rfl
  | some part => rfl

/-! ## All arguments -/

theorem decidedBy_requireArguments (i : Invocation) :
    DecidedBy (missingObjections i.context) (Command.createToken.requireArguments i) := by
  have hfind : (fun argument => !i.context.has argument) = fun argument => (i.context.value argument).isNull := by
    funext argument
    rw [Context.has_eq, Bool.not_not]
  have harguments : Command.createToken.arguments = ["name", "source", "identifier", "operators"] := rfl
  unfold DecidedBy missingObjections Command.requireArguments
  rw [settle_map, hfind, harguments]
  cases List.find? _ _ with
  | none => rfl
  | some argument => rfl

theorem given_of_requireArguments (h : Command.createToken.requireArguments i = .ok ()) :
    ∀ argument ∈ ["name", "source", "identifier", "operators"], (i.context.value argument).isNull = false := by
  rw [(decidedBy_requireArguments i).eq_settle] at h
  unfold missingObjections at h
  rw [settle_map] at h
  cases hfind : List.find? (fun argument => (i.context.value argument).isNull)
      ["name", "source", "identifier", "operators"] with
  | none => simpa using List.find?_eq_none.mp hfind
  | some argument =>
    rw [hfind] at h
    cases h

theorem decidedBy_read (given : ∀ argument ∈ ["name", "source", "identifier", "operators"],
      (i.context.value argument).isNull = false) :
    DecidedBy ([⟨(i.context.value "name").text?.isNone, mistyped "name" (i.context.value "name") "a string"⟩] ++
      (sourceObjections (i.context.value "source") ++ (identifierObjections (i.context.value "identifier") ++
      (supplyObjections (i.context.value "supply") ++
      (operatorsObjections i.target.key (i.context.value "operators") ++
      nameObjections ((i.context.value "name").text?.getD "")))))) (Arguments.read i) := by
  simp only [List.forall_mem_cons] at given
  obtain ⟨hname, hsource, hidentifier, hoperators, -⟩ := given
  unfold Arguments.read
  refine (decidedBy_string hname).bind fun name htext => ?_
  rw [← bind_assoc]
  refine (decidedBy_source hsource).bind fun _ _ => ?_
  refine (decidedBy_identifier hidentifier).bind fun _ _ => ?_
  refine (decidedBy_supply i.context).bind fun _ _ => ?_
  refine (decidedBy_operators hoperators).bind fun _ _ => ?_
  rw [get_string_eq hname, orRefuse_eq_ok] at htext
  rw [htext]
  exact (decidedBy_segments name).map _

theorem validate_eq_settle (i : Invocation) :
    Command.createToken.validate i = settle (objections i) () := by
  apply DecidedBy.eq_settle
  unfold objections Command.validate
  simp only [List.append_assoc]
  refine (decidedBy_requireArguments i).bind fun _ hgiven => ?_
  exact (decidedBy_read (given_of_requireArguments hgiven)).map _

end CreateToken
end TokenGovernance
