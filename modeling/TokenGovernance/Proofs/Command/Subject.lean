import TokenGovernance.Proofs.Command.Verdict
import TokenGovernance.Proofs.Token.Nonce

/-! # The subject of commands

A change of operators never sees the creation that it builds on. It finds the token again from the governed
account and a seed, so that every text that brings the seed back has to lead to the token that was defined,
and to the key that its flags stand under.
-/

namespace TokenGovernance

open Outcome

/-! ## Tokens in operations -/

/-- The operations define one token and rule it by one key. They set flags, all of this token and under this
key. -/
structure Founds (operations : List Operation) (d : Definition) (key : UInt64) : Prop where
  definition : operations.filterMap Operation.definition? = [d]
  rule : (operations.filterMap Operation.globalRestriction?).map (fun r => (r.tokenId, r.key)) = [(d.id, key)]
  flagged : operations.filterMap Operation.addressRestriction? ≠ []
  flags : ∀ r ∈ operations.filterMap Operation.addressRestriction?, r.tokenId = d.id ∧ r.key = key

/-- The operations announce an action on one token, and set one flag of it under the key. -/
structure Serves (operations : List Operation) (revision : UInt32) (action : String) (id : TokenId)
    (key : UInt64) : Prop where
  message : operations.filterMap Operation.message? =
    ["NIP13(v" ++ toString revision ++ "):" ++ action ++ ":" ++ id.toHex]
  flag : (operations.filterMap Operation.addressRestriction?).map (fun r => (r.tokenId, r.key)) = [(id, key)]

/-! ## Seeds -/

/-- The texts that bring a seed back: the seed with blanks around it, and the digits of its nonce in any mix
of cases. -/
inductive TokenNonce.Recalls (n : TokenNonce) (seed : String) : String → Prop
  | padded (front back : String) (hfront : ∀ c ∈ front.toList, Text.isBlank c = true)
      (hback : ∀ c ∈ back.toList, Text.isBlank c = true) : Recalls n seed (front ++ seed ++ back)
  | digits (text : String) (h : text.toUpper = n.toHex) : Recalls n seed text

theorem TokenNonce.Recalls.ofSeed_eq {n : TokenNonce} {seed text : String} (h : n.Recalls seed text)
    (hseed : ofSeed seed = .ok n) : ofSeed text = .ok n := by
  cases h with
  | padded front back hfront hback => rw [ofSeed_congr (Text.trim_append hfront hback seed), hseed]
  | digits _ hdigits => exact ofSeed_of_toUpper hdigits

theorem TokenNonce.exists_ofSeed_toHex {seed : String} (h : ∃ c ∈ seed.toList, Text.isBlank c = false) :
    ∃ n, ofSeed seed = .ok n ∧ ofSeed n.toHex = .ok n := by
  obtain ⟨n, hn⟩ := exists_ofSeed_iff.mpr h
  exact ⟨n, hn, ofSeed_toHex n⟩

/-! ## Creations -/

namespace CreateToken

theorem founds_issuance {i : Invocation} {a : Arguments} (h : a.Reads i) (approvals : Int8) :
    Founds ((issuance i a approvals).map (·.transaction.operation))
      ⟨a.identifier.nonce, a.identifier.id, ⟨true, true, true⟩, 0, 2010240⟩ (restrictionKey "User_Role") := by
  have hflags : ((issuance i a approvals).map (·.transaction.operation)).filterMap
      Operation.addressRestriction? =
        a.operators.map fun o => enrolment a.identifier.id (.ofKey o.key i.context.network.network) := by
    rw [filterMap_issuance fun _ _ _ _ hflag => hflag, filterMap_names fun _ => rfl, List.filterMap_map,
      ← List.filterMap_eq_map]
    rfl
  refine ⟨?_, ?_, ?_, ?_⟩
  · rw [filterMap_issuance fun _ _ hdefinition _ _ => hdefinition, filterMap_names fun _ => rfl,
      filterMap_flags fun _ => rfl]
    rfl
  · rw [filterMap_issuance fun _ _ _ hrule _ => hrule, filterMap_names fun _ => rfl,
      filterMap_flags fun _ => rfl]
    rfl
  · rw [hflags, ne_eq, List.map_eq_nil_iff]
    intro hoperators
    have htwo := h.accepted.two_le
    rw [hoperators] at htwo
    cases htwo
  · rw [hflags, List.forall_mem_map]
    intro o ho
    exact ⟨rfl, rfl⟩

end CreateToken

/-! ## Changes -/

namespace OperatorChange

theorem Kind.serves_emission (k : Kind) (i : Invocation) (a : Arguments) (approval removal : Int8) :
    Serves ((k.emission i a approval removal).map (·.transaction.operation)) i.context.revision k.action
      a.identifier.id (restrictionKey "User_Role") := by
  cases k with
  | add => exact ⟨rfl, rfl⟩
  | remove => exact ⟨rfl, rfl⟩

theorem Kind.exists_emission_of_execute {k : Kind} {i : Invocation} {ledger : LedgerReader}
    {transactions : List InnerTransaction} (h : k.command.execute i ledger = .ok transactions) :
    ∃ a approval removal, Arguments.read i = .ok a ∧ transactions = k.emission i a approval removal := by
  cases k with
  | add =>
    obtain ⟨m, a, approval, removal, hadds, htransactions⟩ := execute_addOperator_eq_ok.mp h
    exact ⟨a, approval, removal, hadds.read, htransactions⟩
  | remove =>
    obtain ⟨m, a, approval, removal, hremoves, htransactions⟩ := execute_removeOperator_eq_ok.mp h
    exact ⟨a, approval, removal, hremoves.read, htransactions⟩

/-- A change with a seed that brings back that of a creation on the same account serves the token that the
creation defined, under the key of its rule and flags. Every seed that is not blank has a nonce, and is brought
back by its digits. -/
theorem Kind.serves_created_token (k : Kind) {i j : Invocation} (same : j.target = i.target)
    {ledger ledger' : LedgerReader} {created changed : List InnerTransaction}
    (hcreated : Command.createToken.execute i ledger = .ok created)
    (hchanged : k.command.execute j ledger' = .ok changed) :
    (∃ seed text d key, i.seed = .ok seed ∧ j.seed = .ok text ∧
      Founds (created.map (·.transaction.operation)) d key ∧
      (d.nonce.Recalls seed text →
        Serves (changed.map (·.transaction.operation)) j.context.revision k.action d.id key)) ∧
    ∀ seed, (∃ c ∈ seed.toList, Text.isBlank c = false) →
      ∃ n, TokenNonce.ofSeed seed = .ok n ∧ TokenNonce.ofSeed n.toHex = .ok n := by
  refine ⟨?_, fun seed h => TokenNonce.exists_ofSeed_toHex h⟩
  obtain ⟨a, hreads⟩ := CreateToken.reads_of_execute hcreated
  obtain ⟨approvals, -, hexecute⟩ := CreateToken.execute_of_reads hreads
  obtain rfl := Except.ok.inj (hcreated.symm.trans (hexecute ledger))
  obtain ⟨b, approval, removal, hread, rfl⟩ := exists_emission_of_execute hchanged
  obtain ⟨hidentifier, -⟩ := Arguments.read_eq_ok.mp hread
  obtain ⟨seed, n, hseed, hn, hfounded⟩ := Invocation.identifier_eq_ok.mp hreads.identifier
  obtain ⟨text, n', htext, hn', hserved⟩ := Invocation.identifier_eq_ok.mp hidentifier
  refine ⟨seed, text, _, _, hseed, htext, CreateToken.founds_issuance hreads approvals, ?_⟩
  intro hrecalls
  have hnonce : a.identifier.nonce = n := congrArg TokenIdentifier.nonce hfounded
  -- Both seeds have the one nonce, and the nonce and the owner make the token.
  have hsame : n' = n := Except.ok.inj (hn'.symm.trans ((hnonce ▸ hrecalls).ofSeed_eq hn))
  have htoken : b.identifier = a.identifier := by
    rw [hserved, hfounded, hsame, same]
  have hserves := k.serves_emission j b approval removal
  rw [htoken] at hserves
  exact hserves

end OperatorChange

/-! ## A sample -/

namespace Sample

/-- A change by the digits of the nonce that "gold" has. -/
def recalling : Invocation :=
  ⟨context (key 2) [("identifier", .string token.nonce.toHex), ("operator", .string fourth)], target⟩

theorem recalling_read : OperatorChange.Arguments.read recalling = .ok ⟨token, .ofKey (key 4)⟩ := by
  refine OperatorChange.Arguments.read_eq_ok.mpr ⟨?_, ?_⟩
  · exact Invocation.identifier_eq_ok.mpr ⟨_, token.nonce, rfl, TokenNonce.ofSeed_toHex _, rfl⟩
  · exact Invocation.operator_eq_ok.mpr ⟨rfl, rfl, by decide⟩

end Sample

open Sample in
/-- The digits that a creation shows are enough to find its token again. -/
theorem OperatorChange.Kind.serves_recalled_token : ∃ created changed d rule,
    Command.createToken.execute creation (recording ⟨target.address, [], 0, 0⟩) = .ok created ∧
    Command.addOperator.execute recalling (recording ⟨target.address, [key 2, key 3], 1, 1⟩) = .ok changed ∧
    Founds (created.map (·.transaction.operation)) d rule ∧
    Serves (changed.map (·.transaction.operation)) 1 "add-operator" d.id rule ∧
    ∃ n, TokenNonce.ofSeed "gold" = .ok n ∧ TokenNonce.ofSeed n.toHex = .ok n := by
  obtain ⟨approvals, -, hexecute⟩ := CreateToken.execute_of_reads creation_reads
  have hcreated := hexecute (recording ⟨target.address, [], 0, 0⟩)
  have hchanged := Kind.add.execute_of_read recalling_read (recording ⟨target.address, [key 2, key 3], 1, 1⟩)
  obtain ⟨⟨seed, text, d, rule, hseed, htext, hfounds, hserves⟩, hdigits⟩ :=
    Kind.add.serves_created_token (i := creation) (j := recalling) rfl hcreated hchanged
  refine ⟨_, _, d, rule, hcreated, hchanged, hfounds, hserves ?_, hdigits "gold" ⟨'g', by decide, by decide⟩⟩
  obtain rfl : text = token.nonce.toHex := Except.ok.inj htext.symm
  have hd := hfounds.definition.symm.trans (CreateToken.founds_issuance creation_reads approvals).definition
  obtain rfl := List.singleton_injective hd
  exact .digits _ (Hex.toUpper_encode _)

end TokenGovernance
