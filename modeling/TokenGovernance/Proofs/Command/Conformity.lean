import TokenGovernance.Proofs.Command.Subject
import TokenGovernance.Proofs.Identity.Account

/-! # Transactions and their context

Whatever a command emits has the network, the deadline and the fee of the context, and every address in it
is of that network. The governed account is handed in, while the accounts of operators are derived from keys
again and again; what is asked of the former is only that it is on the network of the context.
-/

namespace TokenGovernance

/-- The addresses that stand in an operation. -/
def Operation.addresses : Operation → List Address
  | .transfer recipient _ _ => [recipient]
  | .addressRestriction r => [r.target]
  | .multisig _ | .registration _ | .definition _ | .supply .. | .accountRestriction .. | .globalRestriction _ => []

namespace InnerTransaction

/-- The addresses that stand in a transaction: that of its signer and those of its operation. -/
def addresses (t : InnerTransaction) : List Address :=
  t.signer.address :: t.transaction.operation.addresses

/-- The transaction has the parameters of a context, its addresses are valid and of the network of the
context, and its signer has the address of its key there. -/
structure Conforms (t : InnerTransaction) (c : Context) : Prop where
  network : t.transaction.network = c.network.network
  deadline : t.transaction.deadline = c.parameters.deadline
  maxFee : t.transaction.maxFee = c.parameters.maxFee
  addresses : ∀ a ∈ t.addresses, Address.isValid a.octets = true ∧ a.network? = some c.network.network
  signer : t.signer.address = .ofKey t.signer.key c.network.network

end InnerTransaction

variable {i : Invocation}

theorem Context.conforms_transaction (c : Context) {o : Operation} {signer : PublicAccount}
    (hsigner : signer.network = c.network.network)
    (ho : ∀ a ∈ o.addresses, a.network? = some c.network.network) :
    ((c.transaction o).signedBy signer).Conforms c := by
  have haddress : signer.address = .ofKey signer.key c.network.network := by
    rw [← hsigner]
    rfl
  refine ⟨rfl, rfl, rfl, ?_, haddress⟩
  intro a ha
  refine ⟨a.valid, ?_⟩
  rcases List.mem_cons.mp ha with rfl | ha
  · change signer.address.network? = _
    rw [haddress, Address.network?_ofKey]
  · exact ho a ha

theorem Invocation.conforms_byTarget (home : i.target.network = i.context.network.network) {o : Operation}
    (ho : ∀ a ∈ o.addresses, a.network? = some i.context.network.network) :
    (i.byTarget o).Conforms i.context :=
  i.context.conforms_transaction home ho

theorem Invocation.network?_target (home : i.target.network = i.context.network.network) :
    i.target.address.network? = some i.context.network.network := by
  rw [← home]
  exact Address.network?_ofKey _ _

/-! ## Creations -/

namespace CreateToken

theorem addresses_of_mem_provisions {a : Arguments} {o : Operation} (h : o ∈ provisions a) :
    o.addresses = [] := by
  unfold provisions at h
  simp only [List.mem_append, List.mem_mapIdx, List.mem_cons, List.not_mem_nil, or_false] at h
  obtain ((⟨j, hj, rfl⟩ | rfl) | hsupply) | rfl | rfl := h
  · rfl
  · rfl
  · split at hsupply
    · obtain rfl := List.mem_singleton.mp hsupply
      rfl
    · cases hsupply
  · rfl
  · rfl

theorem network?_of_mem_charter (home : i.target.network = i.context.network.network) {a : Arguments}
    {approvals : Int8} {o : Operation} (h : o ∈ charter i a approvals) :
    ∀ x ∈ o.addresses, x.network? = some i.context.network.network := by
  unfold charter at h
  rcases List.mem_cons.mp h with rfl | h
  · intro x hx
    obtain rfl := List.mem_singleton.mp hx
    exact Invocation.network?_target home
  · rcases List.mem_cons.mp h with rfl | h
    · intro x hx
      cases hx
    · rw [addresses_of_mem_provisions h]
      intro x hx
      cases hx

theorem conforms_of_mem_issuance (home : i.target.network = i.context.network.network) {a : Arguments}
    {approvals : Int8} : ∀ t ∈ issuance i a approvals, t.Conforms i.context := by
  intro t ht
  unfold issuance at ht
  rcases List.mem_append.mp ht with ht | ht
  · obtain ⟨o, ho, rfl⟩ := List.mem_map.mp ht
    exact Invocation.conforms_byTarget home (network?_of_mem_charter home ho)
  · obtain ⟨o, -, rfl⟩ := List.mem_map.mp ht
    apply Context.conforms_transaction
    · rfl
    · intro x hx
      obtain rfl := List.mem_singleton.mp hx
      exact Address.network?_ofKey _ _

end CreateToken

/-! ## Changes -/

namespace OperatorChange

theorem network?_assignment (token : TokenIdentifier) (o : Operator) (previous : Option Role) (role : Role) :
    ∀ x ∈ (i.assignment token o previous role).addresses, x.network? = some i.context.network.network := by
  intro x hx
  obtain rfl := List.mem_singleton.mp hx
  exact Address.network?_ofKey _ _

theorem conforms_of_mem_emission (home : i.target.network = i.context.network.network) {k : Kind}
    {a : Arguments} {approval removal : Int8} :
    ∀ t ∈ k.emission i a approval removal, t.Conforms i.context := by
  have hintent : ∀ x ∈ [i.target.address], x.network? = some i.context.network.network :=
    List.forall_mem_singleton.mpr (Invocation.network?_target home)
  unfold Kind.emission
  refine List.forall_mem_cons.mpr ⟨Invocation.conforms_byTarget home hintent, ?_⟩
  refine List.forall_mem_cons.mpr ⟨Invocation.conforms_byTarget home (List.forall_mem_nil _), ?_⟩
  refine List.forall_mem_singleton.mpr ?_
  cases k with
  | add => exact Context.conforms_transaction _ rfl (network?_assignment _ _ _ _)
  | remove => exact Invocation.conforms_byTarget home (network?_assignment _ _ _ _)

end OperatorChange

/-! ## Every command -/

open OperatorChange in
/-- Every transaction that a command emits for an account on the network of its context conforms to the
context. -/
theorem Command.conforms_of_execute (c : Command) {ledger : LedgerReader} {transactions : List InnerTransaction}
    (home : i.target.network = i.context.network.network) (h : c.execute i ledger = .ok transactions) :
    ∀ t ∈ transactions, t.Conforms i.context := by
  cases c with
  | createToken =>
    obtain ⟨a, hreads⟩ := CreateToken.reads_of_execute h
    obtain ⟨approvals, -, hexecute⟩ := CreateToken.execute_of_reads hreads
    obtain rfl := Except.ok.inj (h.symm.trans (hexecute ledger))
    exact CreateToken.conforms_of_mem_issuance home
  | addOperator =>
    obtain ⟨a, approval, removal, -, rfl⟩ := Kind.exists_emission_of_execute (k := .add) h
    exact conforms_of_mem_emission home
  | removeOperator =>
    obtain ⟨a, approval, removal, -, rfl⟩ := Kind.exists_emission_of_execute (k := .remove) h
    exact conforms_of_mem_emission home

open Sample in
theorem CreateToken.conforms_sample : creation.target.network = creation.context.network.network ∧
    ∃ transactions, transactions.length = 11 ∧
      Command.createToken.execute creation (recording ⟨target.address, [], 0, 0⟩) = .ok transactions ∧
      ∀ t ∈ transactions, t.Conforms creation.context := by
  have home : creation.target.network = creation.context.network.network := rfl
  obtain ⟨approvals, -, hexecute⟩ := CreateToken.execute_of_reads creation_reads
  have h := hexecute (recording ⟨target.address, [], 0, 0⟩)
  exact ⟨home, _, length_issuance _ _ _, h, Command.conforms_of_execute .createToken home h⟩

end TokenGovernance
