import TokenGovernance.Proofs.Command.Arguments
import TokenGovernance.Proofs.Command.Threshold
import TokenGovernance.Proofs.Governance.Flags
import TokenGovernance.Proofs.Text.Hex

/-! # What a creation emits

The transactions of a creation, written out from what its arguments say: whenever the arguments are
accepted, these are emitted, whatever the ledger answers.
-/

namespace TokenGovernance

open Outcome

/-! ## Paths -/

/-- The path of segments. There is none for no segments. -/
def TokenName.path? (segments : List String) : Option String :=
  if segments = [] then none else some (join segments)

theorem TokenName.path?_append (front : List String) (name : String) :
    path? (front ++ [name]) = some (match path? front with
      | none => name
      | some p => p ++ "." ++ name) := by
  unfold path?
  rw [if_neg (List.append_ne_nil_of_right_ne_nil _ (List.cons_ne_nil _ _))]
  by_cases h : front = []
  · rw [if_pos h, h]
    simp [join]
  · rw [if_neg h, join, String.intercalate_append_of_ne_nil h (List.cons_ne_nil _ _)]
    simp [join]

namespace CreateToken

theorem registrations_cons (parent : Option String) (name : String) (rest : List String) :
    registrations parent (name :: rest) = .register Limits.namespaceDuration name parent ::
      registrations (some (match parent with
        | none => name
        | some p => p ++ "." ++ name)) rest := by
  cases parent <;> rfl

open TokenName in
theorem registrations_path? (front segments : List String) :
    registrations (path? front) segments = segments.mapIdx fun j name =>
      .register Limits.namespaceDuration name (path? (front ++ segments.take j)) := by
  -- The path grows with every segment, so the statement holds for any front.
  induction segments generalizing front with
  | nil => rfl
  | cons name rest ih =>
    rw [registrations_cons, ← path?_append, ih, List.mapIdx_cons]
    simp

/-! ## Arguments -/

/-- What the arguments say, as it stands in the register. -/
structure Arguments.Reads (a : Arguments) (i : Invocation) : Prop where
  name : i.context.get .string "name" "" = .ok a.name
  segments : TokenName.segments a.name = .ok a.segments
  source : (i.context.get .string "source" "" >>= TokenSource.ofText) = .ok a.source
  identifier : i.identifier = .ok a.identifier
  operators : i.context.get Wire.decoder "operators" [] = .ok a.operators
  accepted : i.AcceptsOperators a.operators
  supply : i.context.get .u64 "supply" 1 = .ok a.supply

theorem Arguments.read_eq_ok {i : Invocation} {a : Arguments} : read i = .ok a ↔ a.Reads i := by
  unfold read
  simp only [bind_eq_ok, pure_eq, Except.ok.injEq, Invocation.operators_eq_ok]
  constructor
  · rintro ⟨name, hname, text, htext, source, hsource, identifier, hidentifier, supply, hsupply, operators,
      ⟨hoperators, haccepted⟩, segments, hsegments, rfl⟩
    refine ⟨hname, hsegments, ?_, hidentifier, hoperators, haccepted, hsupply⟩
    rw [htext]
    exact hsource
  · intro h
    obtain ⟨text, htext, hsource⟩ := bind_eq_ok.mp h.source
    exact ⟨a.name, h.name, text, htext, a.source, hsource, a.identifier, h.identifier, a.supply, h.supply,
      a.operators, ⟨h.operators, h.accepted⟩, a.segments, h.segments, rfl⟩

/-! ## Transactions -/

/-- What the governed account asks for its token: the segments of the name, the token, its supply if there is
any, and the rules. -/
def provisions (a : Arguments) : List Operation :=
  (a.segments.mapIdx fun j name => .register 2010240 name (TokenName.path? (a.segments.take j))) ++
  [.definition ⟨a.identifier.nonce, a.identifier.id, ⟨true, true, true⟩, 0, 2010240⟩] ++
  (if 0 < a.supply then [.supply a.identifier.id .increase a.supply] else []) ++
  [.accountRestriction .allow [a.identifier.id] [],
    .globalRestriction ⟨a.identifier.id, ⟨0⟩, restrictionKey "User_Role", 0, .none, 2, .ge⟩]

/-- The operations that the governed account signs in a creation: an announcement, the operators with the
approvals of all but one, and the provisions of the token. -/
def charter (i : Invocation) (a : Arguments) (approvals : Int8) : List Operation :=
  .transfer i.target.address []
      (some ("NIP13(v" ++ toString i.context.revision ++ "):create:" ++ a.identifier.id.toHex)) ::
    .multisig ⟨approvals, approvals, a.operators.map (·.key), []⟩ :: provisions a

/-- The transactions of a creation: the governed account signs its charter, and every operator, on the
network of the context, its own enrolment. -/
def issuance (i : Invocation) (a : Arguments) (approvals : Int8) : List InnerTransaction :=
  let sign (o : Operation) (signer : PublicAccount) : InnerTransaction :=
    ⟨signer, i.context.network.network, i.context.parameters.deadline, i.context.parameters.maxFee, o⟩
  (charter i a approvals).map (sign · i.target) ++
    a.operators.map fun o =>
      let account : PublicAccount := ⟨o.key, i.context.network.network⟩
      sign (.addressRestriction (enrolment a.identifier.id account.address)) account

theorem length_issuance (i : Invocation) (a : Arguments) (approvals : Int8) :
    (issuance i a approvals).length =
      5 + a.segments.length + a.operators.length + (if 0 < a.supply then 1 else 0) := by
  unfold issuance charter provisions
  simp only [List.length_append, List.length_map, List.length_mapIdx, List.length_cons, List.length_nil]
  split
  · simp only [List.length_cons, List.length_nil]
    omega
  · simp only [List.length_nil]
    omega

theorem message_announcement (i : Invocation) (token : TokenIdentifier) :
    (i.notification action token).message =
      "NIP13(v" ++ toString i.context.revision ++ "):create:" ++ token.id.toHex := by
  have h : "):create:" = "):" ++ action ++ ":" := by decide
  rw [h]
  unfold Invocation.notification Notification.message
  simp only [String.append_assoc]

theorem charter_eq_cons_operations (i : Invocation) (a : Arguments) (approvals : Int8) :
    charter i a approvals =
      .transfer i.target.address [] (some (i.notification action a.identifier).message) ::
        operations a approvals := by
  have hpaths := registrations_path? [] a.segments
  rw [show TokenName.path? [] = none from rfl] at hpaths
  unfold charter provisions operations
  rw [hpaths, message_announcement]
  simp only [List.append_assoc, List.cons_append, List.nil_append]
  rfl

theorem assemble_of_reads {i : Invocation} {a : Arguments} (h : a.Reads i) :
    ∃ approvals : Int8, approvals.toInt = a.operators.length - 1 ∧
      assemble i = .ok (issuance i a approvals) := by
  have htwo := h.accepted.two_le
  have hmax := h.accepted.le_max
  have hcount : (UInt8.ofNat (a.operators.length - 1)).toNat = a.operators.length - 1 := by
    rw [UInt8.toNat_ofNat', Nat.mod_eq_of_lt (by omega)]
  refine ⟨(UInt8.ofNat (a.operators.length - 1)).toInt8, ?_, ?_⟩
  · rw [Threshold.toInt_toInt8 (by omega), hcount]
    omega
  · unfold assemble
    rw [Arguments.read_eq_ok.mpr h, ok_bind, Threshold.ofCount_eq_ok.mpr ⟨htwo, by omega, hcount⟩, ok_bind]
    unfold issuance
    rw [charter_eq_cons_operations]
    rfl

theorem requireArguments_of_reads {i : Invocation} {a : Arguments} (h : a.Reads i) :
    Command.createToken.requireArguments i = .ok () := by
  obtain ⟨seed, -, hseed, -, -⟩ := Invocation.identifier_eq_ok.mp h.identifier
  obtain ⟨source, hsource, hgiven⟩ := bind_eq_ok.mp h.source
  -- What stands for an argument that is left out would have been refused, so none of the four is.
  have hname : i.context.has "name" = true := by
    apply Context.has_of_get_ne h.name
    intro hempty
    have hsegments := h.segments
    rw [hempty] at hsegments
    cases hsegments
  have hsource' : i.context.has "source" = true := by
    apply Context.has_of_get_ne hsource
    rintro rfl
    cases hgiven
  have hoperators : i.context.has "operators" = true := by
    apply Context.has_of_get_ne h.operators
    intro hempty
    have htwo := h.accepted.two_le
    rw [hempty] at htwo
    cases htwo
  unfold Command.requireArguments
  rw [show Command.createToken.arguments = ["name", "source", "identifier", "operators"] from rfl,
    List.find?_cons, hname, List.find?_cons, hsource', List.find?_cons, Invocation.has_of_seed hseed,
    List.find?_cons, hoperators]
  rfl

theorem validate_eq_ok {i : Invocation} :
    Command.createToken.validate i = .ok () ↔ ∃ a : Arguments, a.Reads i := by
  unfold Command.validate
  simp only [bind_eq_ok, exists_unit, pure_eq, and_true, Arguments.read_eq_ok]
  constructor
  · rintro ⟨-, hreads⟩
    exact hreads
  · rintro ⟨a, hreads⟩
    exact ⟨requireArguments_of_reads hreads, a, hreads⟩

theorem execute_of_validate {i : Invocation} (valid : Command.createToken.validate i = .ok ())
    (ledger : LedgerReader) : Command.createToken.execute i ledger = assemble i := by
  unfold Command.execute
  rw [valid]
  rfl

theorem execute_of_reads {i : Invocation} {a : Arguments} (h : a.Reads i) :
    ∃ approvals : Int8, approvals.toInt = a.operators.length - 1 ∧
      ∀ ledger, Command.createToken.execute i ledger = .ok (issuance i a approvals) := by
  obtain ⟨approvals, happrovals, hassemble⟩ := assemble_of_reads h
  refine ⟨approvals, happrovals, fun ledger => ?_⟩
  rw [execute_of_validate (validate_eq_ok.mpr ⟨a, h⟩), hassemble]

theorem reads_of_execute {i : Invocation} {ledger : LedgerReader} {transactions : List InnerTransaction}
    (h : Command.createToken.execute i ledger = .ok transactions) : ∃ a : Arguments, a.Reads i := by
  unfold Command.execute at h
  simp only [bind_eq_ok, exists_unit] at h
  exact validate_eq_ok.mp h.1

theorem operations_issuance (i : Invocation) (a : Arguments) (approvals : Int8) :
    (issuance i a approvals).map (·.transaction.operation) = charter i a approvals ++
      ((a.operators.map (·.key)).map fun k =>
        enrolment a.identifier.id (.ofKey k i.context.network.network)).map .addressRestriction := by
  unfold issuance
  simp only [List.map_append, List.map_map]
  congr 1
  exact List.map_id _

end CreateToken

/-! ## What transactions say

Operations of one kind, picked out of all that are emitted.
-/

namespace Operation

def registration? : Operation → Option Registration
  | .registration r => some r
  | _ => none

def definition? : Operation → Option Definition
  | .definition d => some d
  | _ => none

def globalRestriction? : Operation → Option GlobalRestriction
  | .globalRestriction r => some r
  | _ => none

def addressRestriction? : Operation → Option AddressRestriction
  | .addressRestriction r => some r
  | _ => none

def message? : Operation → Option String
  | .transfer _ _ message => message
  | _ => none

end Operation

namespace CreateToken

/-- What a creation says to whoever looks at names, definitions, rules and flags only. -/
theorem filterMap_issuance {β : Type} {f : Operation → Option β}
    (h : ∀ o : Operation, o.registration? = none → o.definition? = none → o.globalRestriction? = none →
      o.addressRestriction? = none → f o = none) (i : Invocation) (a : Arguments) (approvals : Int8) :
    ((issuance i a approvals).map (·.transaction.operation)).filterMap f =
      (a.segments.mapIdx fun j name =>
        Operation.register 2010240 name (TokenName.path? (a.segments.take j))).filterMap f ++
      [Operation.definition ⟨a.identifier.nonce, a.identifier.id, ⟨true, true, true⟩, 0, 2010240⟩,
        .globalRestriction ⟨a.identifier.id, ⟨0⟩, restrictionKey "User_Role", 0, .none, 2, .ge⟩].filterMap f ++
      (a.operators.map fun o => Operation.addressRestriction
        (enrolment a.identifier.id (.ofKey o.key i.context.network.network))).filterMap f := by
  have hsupply : (if 0 < a.supply then [Operation.supply a.identifier.id .increase a.supply]
      else []).filterMap f = [] := by
    split
    · rw [List.filterMap_cons_none (h _ rfl rfl rfl rfl)]
      rfl
    · rfl
  have haccount : f (.accountRestriction .allow [a.identifier.id] []) = none := h _ rfl rfl rfl rfl
  rw [operations_issuance]
  unfold charter provisions
  rw [List.filterMap_append, List.filterMap_cons_none (h _ rfl rfl rfl rfl),
    List.filterMap_cons_none (h _ rfl rfl rfl rfl), List.filterMap_append, List.filterMap_append, hsupply,
    List.append_nil, List.filterMap_cons_none haccount, ← List.filterMap_append, List.append_assoc,
    List.filterMap_append, List.map_map, List.map_map]
  rfl

theorem filterMap_names {β : Type} {f : Operation → Option β} (hf : ∀ r, f (.registration r) = none)
    (a : Arguments) :
    (a.segments.mapIdx fun j name =>
      Operation.register 2010240 name (TokenName.path? (a.segments.take j))).filterMap f = [] := by
  rw [List.filterMap_eq_nil_iff]
  intro o ho
  obtain ⟨j, hj, rfl⟩ := List.mem_mapIdx.mp ho
  exact hf _

theorem filterMap_flags {β : Type} {f : Operation → Option β} (hf : ∀ r, f (.addressRestriction r) = none)
    (i : Invocation) (a : Arguments) :
    (a.operators.map fun o => Operation.addressRestriction
      (enrolment a.identifier.id (.ofKey o.key i.context.network.network))).filterMap f = [] := by
  rw [List.filterMap_eq_nil_iff, List.forall_mem_map]
  intro o ho
  exact hf _

end CreateToken

/-! ## A sample -/

namespace Sample

/-- The key all bytes of which are the same. -/
def key (b : UInt8) : PublicKey :=
  ⟨Octets.fill 32 b⟩

def target : PublicAccount :=
  ⟨key 9, .testnet⟩

def context (actor : PublicKey) (arguments : List (String × Json)) : Context :=
  ⟨1, .ofNetwork .testnet, ⟨actor, .testnet⟩, ⟨⟨0⟩, 0, 100⟩, arguments⟩

def second : String := "0202020202020202020202020202020202020202020202020202020202020202"

def third : String := "0303030303030303030303030303030303030303030303030303030303030303"

def fourth : String := "0404040404040404040404040404040404040404040404040404040404040404"

/-- The creation of a token of three operators. -/
def creation : Invocation :=
  ⟨context (key 1) [("identifier", .string "gold"), ("name", .string "acme.gold"),
    ("operators", .array [.string second, .string third, .string fourth]), ("source", .string "mint"),
    ("supply", .nat 1000)], target⟩

def token : TokenIdentifier :=
  .ofNonce (.digest "gold") target.address

def arguments : CreateToken.Arguments :=
  ⟨"acme.gold", ["acme", "gold"], ⟨"mint", by decide⟩, token,
    [.ofKey (key 2), .ofKey (key 3), .ofKey (key 4)], 1000⟩

theorem creation_reads : arguments.Reads creation where
  name := rfl
  segments := rfl
  source := rfl
  identifier := Invocation.identifier_eq_ok.mpr ⟨"gold", .digest "gold", rfl, rfl, rfl⟩
  operators := rfl
  accepted := ⟨by decide, by decide, by decide, by decide, by decide⟩
  supply := rfl

end Sample

end TokenGovernance
