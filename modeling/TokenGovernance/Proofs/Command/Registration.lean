import TokenGovernance.Proofs.Command.Creation
import TokenGovernance.Proofs.Token.Name

/-! # Registrations of a name

A name is registered segment by segment, each with the path of those in front of it for its parent. The
identifier of a parent is worked out anew from that path, and it is the identifier that was registered before.
-/

namespace TokenGovernance

open Outcome

/-! ## Chains -/

/-- Registrations of segments in order, from a root down, each the parent of the one behind it. -/
structure Chained (segments : List String) (registrations : List Registration) : Prop where
  name : registrations.map (·.name) = segments
  root : ∀ r, registrations[0]? = some r → r.kind = .root ∧ r.parent = none
  child : ∀ (j : Nat) (r next : Registration), registrations[j]? = some r → registrations[j + 1]? = some next →
    next.kind = .child ∧ next.parent = some r.id
  id : ∀ (j : Nat) (r : Registration), registrations[j]? = some r →
    r.id = .ofPath (TokenName.join (segments.take (j + 1)))

theorem TokenName.path?_of_ne_nil {front : List String} (h : front ≠ []) : path? front = some (join front) :=
  if_neg h

namespace Registration

/-- The registration of a name under a path. -/
def ofParent (duration : UInt64) (name : String) (parent : Option String) : Registration :=
  let parent := parent.map NamespaceId.ofPath
  ⟨if parent.isSome then .child else .root, name, .ofName name parent, parent, duration⟩

theorem id_ofParent_none (duration : UInt64) {name : String} (h : '.' ∉ name.toList) :
    (ofParent duration name none).id = .ofPath name :=
  (NamespaceId.ofPath_of_no_dot h).symm

theorem id_ofParent_some (duration : UInt64) {name : String} (h : '.' ∉ name.toList) (p : String) :
    (ofParent duration name (some p)).id = .ofPath (p ++ "." ++ name) :=
  (NamespaceId.ofPath_append p h).symm

open TokenName in
theorem id_ofParent_path? (duration : UInt64) {name : String} (h : '.' ∉ name.toList) (front : List String) :
    (ofParent duration name (path? front)).id = .ofPath (join (front ++ [name])) := by
  have hne : front ++ [name] ≠ [] := List.append_ne_nil_of_right_ne_nil _ (List.cons_ne_nil _ _)
  rw [Option.some.inj ((path?_of_ne_nil hne).symm.trans (path?_append front name))]
  cases path? front with
  | none => exact id_ofParent_none duration h
  | some p => exact id_ofParent_some duration h p

end Registration

open TokenName in
theorem chained_mapIdx (duration : UInt64) {segments : List String} (h : ∀ s ∈ segments, '.' ∉ s.toList) :
    Chained segments (segments.mapIdx fun j name =>
      .ofParent duration name (path? (segments.take j))) := by
  -- What stands at a place is known from the segment there.
  have hat {j : Nat} {r : Registration}
      (hr : (segments.mapIdx fun j name => Registration.ofParent duration name
        (path? (segments.take j)))[j]? = some r) :
      r = .ofParent duration r.name (path? (segments.take j)) ∧ r.id = .ofPath (join (segments.take (j + 1))) := by
    rw [List.getElem?_mapIdx, Option.map_eq_some_iff] at hr
    obtain ⟨name, hname, rfl⟩ := hr
    refine ⟨rfl, ?_⟩
    rw [Registration.id_ofParent_path? duration (h name (List.mem_of_getElem? hname)), List.take_add_one, hname]
    rfl
  refine ⟨?_, ?_, ?_, fun j r hr => (hat hr).2⟩
  · rw [List.mapIdx_eq_zipIdx_map, List.map_map]
    exact List.zipIdx_map_fst 0 segments
  · intro r hr
    obtain ⟨hroot, -⟩ := hat hr
    rw [hroot]
    exact ⟨rfl, rfl⟩
  · intro j r next hr hnext
    obtain ⟨-, hid⟩ := hat hr
    obtain ⟨hchild, -⟩ := hat hnext
    have hne : segments.take (j + 1) ≠ [] := by
      rintro hnil
      rw [List.take_eq_nil_iff] at hnil
      rcases hnil with hzero | rfl
      · exact absurd hzero j.succ_ne_zero
      · cases hr
    rw [hchild, path?_of_ne_nil hne, hid]
    exact ⟨rfl, rfl⟩

/-! ## Creations -/

open TokenName in
theorem Chained.id_getLast? {segments : List String} {registrations : List Registration}
    (h : Chained segments registrations) (hne : segments ≠ []) :
    registrations.getLast?.map (·.id) = some (.ofPath (join segments)) := by
  have hlength : registrations.length = segments.length := by
    rw [← h.name, List.length_map]
  have hpos := List.length_pos_of_ne_nil hne
  have hlast : registrations.length - 1 < registrations.length := by omega
  have hid := h.id _ _ (List.getElem?_eq_getElem hlast)
  rw [List.getLast?_eq_getElem?, List.getElem?_eq_getElem hlast, Option.map_some, hid]
  congr 3
  exact List.take_of_length_le (by omega)

/-- The registrations among transactions, in order. -/
def registered (transactions : List InnerTransaction) : List Registration :=
  (transactions.map (·.transaction.operation)).filterMap Operation.registration?

namespace CreateToken

theorem registered_issuance (i : Invocation) (a : Arguments) (approvals : Int8) :
    registered (issuance i a approvals) =
      a.segments.mapIdx fun j name => .ofParent 2010240 name (TokenName.path? (a.segments.take j)) := by
  have hnames : (a.segments.mapIdx fun j name =>
      Operation.register 2010240 name (TokenName.path? (a.segments.take j))).filterMap
        Operation.registration? =
      a.segments.mapIdx fun j name => .ofParent 2010240 name (TokenName.path? (a.segments.take j)) := by
    rw [List.mapIdx_eq_zipIdx_map, List.mapIdx_eq_zipIdx_map, List.filterMap_map, ← List.filterMap_eq_map]
    rfl
  unfold registered
  rw [filterMap_issuance fun _ hname _ _ _ => hname, hnames, filterMap_flags fun _ => rfl,
    List.append_nil]
  exact List.append_nil _

/-- A creation with a name that is accepted registers its segments in a chain, which ends in the namespace of
the whole name. A registration of any name without a dot has the identifier of the path that it completes. -/
theorem registrations_chained (i : Invocation) (valid : Command.createToken.validate i = .ok ()) :
    (∃ name, i.context.get .string "name" "" = .ok name ∧ ∀ ledger, ∃ transactions,
      Command.createToken.execute i ledger = .ok transactions ∧
      Chained (TokenName.split name) (registered transactions) ∧
      (registered transactions).getLast?.map (·.id) = some (.ofPath name)) ∧
    ∀ (duration : UInt64) (name : String), '.' ∉ name.toList →
      (∀ p, Operation.register duration name (some p) =
        .registration ⟨.child, name, .ofPath (p ++ "." ++ name), some (.ofPath p), duration⟩) ∧
      Operation.register duration name none =
        .registration ⟨.root, name, .ofPath name, none, duration⟩ := by
  constructor
  · obtain ⟨a, hreads⟩ := validate_eq_ok.mp valid
    obtain ⟨approvals, -, hexecute⟩ := execute_of_reads hreads
    obtain ⟨hname, hne, -, hsegments⟩ := TokenName.segments_eq_ok.mp hreads.segments
    have hdots : ∀ s ∈ a.segments, '.' ∉ s.toList := fun s hs => TokenName.no_dot_of_isSegment (hsegments s hs)
    have hchained := chained_mapIdx 2010240 hdots
    rw [← registered_issuance i a approvals] at hchained
    have hsplit : TokenName.split a.name = a.segments := hname ▸ TokenName.split_join hne hdots
    refine ⟨a.name, hreads.name, fun ledger => ⟨_, hexecute ledger, hsplit.symm ▸ hchained, ?_⟩⟩
    rw [hchained.id_getLast? hne, hname]
  · intro duration name hdot
    constructor
    · intro p
      rw [NamespaceId.ofPath_append p hdot]
      rfl
    · rw [NamespaceId.ofPath_of_no_dot hdot]
      rfl

end CreateToken

/-! ## A sample -/

open Sample in
theorem CreateToken.registrations_sample :
    Command.createToken.validate creation = .ok () ∧ ∃ transactions,
      Command.createToken.execute creation ⟨fun _ => .ok false, fun _ => .ok none⟩ = .ok transactions ∧
      Chained ["acme", "gold"] (registered transactions) ∧
      (registered transactions).getLast?.map (·.id) = some (.ofPath "acme.gold") ∧
      Operation.register 2010240 "gold" (some "acme") =
        .registration ⟨.child, "gold", .ofPath "acme.gold", some (.ofPath "acme"), 2010240⟩ := by
  have valid : Command.createToken.validate creation = .ok () :=
    validate_eq_ok.mpr ⟨arguments, creation_reads⟩
  obtain ⟨⟨name, hname, hchained⟩, hregister⟩ := registrations_chained creation valid
  obtain rfl : name = "acme.gold" := Except.ok.inj hname.symm
  obtain ⟨transactions, hexecute, hregistered, hlast⟩ := hchained ⟨fun _ => .ok false, fun _ => .ok none⟩
  obtain ⟨hchild, -⟩ := hregister 2010240 "gold" (by decide)
  have hpath : "acme" ++ "." ++ "gold" = "acme.gold" := rfl
  exact ⟨valid, transactions, hexecute, hregistered, hlast, hpath ▸ hchild "acme"⟩

end TokenGovernance
