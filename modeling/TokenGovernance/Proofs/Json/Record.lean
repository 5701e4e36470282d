import TokenGovernance.Json.Record
import TokenGovernance.Proofs.Json.Value
import TokenGovernance.Proofs.Keyed
import Mathlib.Data.List.Nodup

/-! # Records and variants that are tried

What a value that is tried in several forms has to be: a record takes the members that it has fields for,
once each, whatever stands between them, and a variant is its name.
-/

namespace TokenGovernance.Json

open Outcome

namespace Record

/-! ## Fields -/

section Fields

variable {α β : Type} {src : Source} {find : String → Option Node}

theorem build_map_eq_ok {f : α → β} {r : Record α} {b : β} :
    (f <$> r).build src find = .ok b ↔ ∃ a, r.build src find = .ok a ∧ f a = b :=
  map_eq_ok

theorem build_seq_eq_ok {r : Record (α → β)} {x : Record α} {b : β} :
    (r <*> x).build src find = .ok b ↔
      ∃ f, r.build src find = .ok f ∧ ∃ a, x.build src find = .ok a ∧ f a = b := by
  change (r.build src find >>= fun f => x.build src find >>= fun a => pure (f a)) = _ ↔ _
  simp only [bind_eq_ok, pure_eq, Except.ok.injEq]

theorem build_fieldOr_eq_ok {name : String} {d : Decoder α} {fillable : Bool} {absent : Except Fault α}
    {a : α} : (fieldOr name d fillable absent).build src find = .ok a ↔
      (find name = none ∧ absent = .ok a) ∨ ∃ node, find name = some node ∧ d src node = .ok a := by
  unfold fieldOr
  dsimp only
  cases find name with
  | none => simp
  | some node => simp

theorem eq_of_build_fieldDefault {name : String} {d : Decoder α} {value a : α}
    (h : (fieldDefault name d value).build src find = .ok a) (hnone : find name = none) : a = value := by
  rcases build_fieldOr_eq_ok.mp h with ⟨-, habsent⟩ | ⟨node, hnode, -⟩
  · exact (Except.ok.inj habsent).symm
  · cases hnone.symm.trans hnode

theorem increasing_of_build {κ : Type} [LT κ] [DecidableLT κ] [DecidableEq κ] [LE κ] [Std.IsLinearOrder κ]
    [Std.LawfulOrderLT κ] {name : String} {d : Decoder (List (κ × α))} {table : List (κ × α)}
    (h : (fieldDefault name (d.map Keyed.ofList) []).build src find = .ok table) : Keyed.Increasing table := by
  rcases build_fieldOr_eq_ok.mp h with ⟨-, hnone⟩ | ⟨part, -, hpart⟩
  · obtain rfl := Except.ok.inj hnone
    exact .nil
  · obtain ⟨pairs, -, rfl⟩ := map_eq_ok.mp hpart
    exact Keyed.increasing_ofList pairs

end Fields

/-! ## Members -/

variable {fields : List Field} {seen : List String} {members : List (String × Json)}

theorem isSome_find? (fields : List Field) (name : String) :
    (fields.find? (·.name == name)).isSome = decide (name ∈ fields.map (·.name)) := by
  rw [Bool.eq_iff_iff, List.find?_isSome, decide_eq_true_eq, List.mem_map]
  simp only [beq_iff_eq]

/-- The members that there are fields for. -/
def kept (fields : List Field) (members : List (String × Json)) : List (String × Json) :=
  members.filter fun m => (fields.find? (·.name == m.1)).isSome

theorem keys_kept (fields : List Field) (members : List (String × Json)) :
    (kept fields members).map (·.1) = (members.map (·.1)).filter (· ∈ fields.map (·.name)) := by
  unfold kept
  simp only [isSome_find?]
  rw [List.filter_map]
  rfl

theorem kept_cons_of_field {name : String} {value : Json} {f : Field}
    (h : fields.find? (·.name == name) = some f) :
    kept fields ((name, value) :: members) = (name, value) :: kept fields members := by
  unfold kept
  rw [List.filter_cons_of_pos]
  rw [h]
  rfl

theorem kept_cons_of_none {name : String} (value : Json) (h : fields.find? (·.name == name) = none) :
    kept fields ((name, value) :: members) = kept fields members := by
  unfold kept
  rw [List.filter_cons_of_neg]
  rw [h]
  exact Bool.false_ne_true

theorem not_mem_kept (members : List (String × Json)) {name : String} (h : fields.find? (·.name == name) = none) :
    name ∉ (kept fields members).map (·.1) := by
  intro hmem
  rw [keys_kept, List.mem_filter, ← isSome_find?, h] at hmem
  exact Bool.false_ne_true hmem.2

/-- What the fields of a record ask of members: no two for one field, none for a field that was met before, and
each with a value that its field accepts. -/
structure Accepts (fields : List Field) (seen : List String) (members : List (String × Json)) : Prop where
  nodup : ((kept fields members).map (·.1)).Nodup
  fresh : ∀ name ∈ (kept fields members).map (·.1), name ∉ seen
  check : ∀ m ∈ members, ∀ f, fields.find? (·.name == m.1) = some f → f.check .trial m.2.toNode = .ok ()

theorem accepts_cons_of_none {name : String} {value : Json} (h : fields.find? (·.name == name) = none) :
    Accepts fields seen ((name, value) :: members) ↔ Accepts fields seen members := by
  constructor
  · rintro ⟨hnodup, hfresh, hcheck⟩
    rw [kept_cons_of_none _ h] at hnodup hfresh
    exact ⟨hnodup, hfresh, fun m hm => hcheck m (List.mem_cons_of_mem _ hm)⟩
  · rintro ⟨hnodup, hfresh, hcheck⟩
    rw [← kept_cons_of_none value h] at hnodup hfresh
    refine ⟨hnodup, hfresh, List.forall_mem_cons.mpr ⟨fun f hf => ?_, hcheck⟩⟩
    rw [h] at hf
    cases hf

theorem accepts_cons_of_field {name : String} {value : Json} {f : Field}
    (h : fields.find? (·.name == name) = some f) :
    Accepts fields seen ((name, value) :: members) ↔
      name ∉ seen ∧ f.check .trial value.toNode = .ok () ∧ Accepts fields (name :: seen) members := by
  constructor
  · rintro ⟨hnodup, hfresh, hcheck⟩
    rw [kept_cons_of_field h, List.map_cons] at hnodup hfresh
    obtain ⟨hnew, hnodup⟩ := List.nodup_cons.mp hnodup
    obtain ⟨hname, hfresh⟩ := List.forall_mem_cons.mp hfresh
    obtain ⟨hvalue, hcheck⟩ := List.forall_mem_cons.mp hcheck
    refine ⟨hname, hvalue f h, hnodup, fun other hother => ?_, hcheck⟩
    rw [List.mem_cons, not_or]
    exact ⟨fun heq => hnew (heq ▸ hother), hfresh other hother⟩
  · rintro ⟨hname, hvalue, hnodup, hfresh, hcheck⟩
    have hnew : name ∉ (kept fields members).map (·.1) := fun hmem => hfresh name hmem List.mem_cons_self
    refine ⟨?_, ?_, ?_⟩
    · rw [kept_cons_of_field h, List.map_cons]
      exact List.nodup_cons.mpr ⟨hnew, hnodup⟩
    · rw [kept_cons_of_field h, List.map_cons]
      exact List.forall_mem_cons.mpr
        ⟨hname, fun other hother hseen => hfresh other hother (List.mem_cons_of_mem _ hseen)⟩
    · refine List.forall_mem_cons.mpr ⟨fun f' hf' => ?_, hcheck⟩
      obtain rfl := Option.some.inj (h.symm.trans hf')
      exact hvalue

theorem mem_kept_of_lookup {name : String} {value : Json} {f : Field}
    (hf : fields.find? (·.name == name) = some f) (h : members.lookup name = some value) :
    (name, value) ∈ kept fields members := by
  obtain ⟨front, back, rfl, -⟩ := List.lookup_eq_some_iff.mp h
  unfold kept
  rw [List.mem_filter, hf]
  exact ⟨List.mem_append_right _ List.mem_cons_self, rfl⟩

theorem Accepts.of_lookup (hnodup : ((kept fields members).map (·.1)).Nodup)
    (hcheck : ∀ name value f, members.lookup name = some value → fields.find? (·.name == name) = some f →
      f.check .trial value.toNode = .ok ()) : Accepts fields [] members := by
  refine ⟨hnodup, fun _ _ => List.not_mem_nil, ?_⟩
  rintro ⟨name, value⟩ hm f hf
  cases hlookup : members.lookup name with
  | none => exact absurd rfl (bne_iff_ne.mp (List.lookup_eq_none_iff.mp hlookup _ hm))
  | some first =>
    have hkept : (name, value) ∈ kept fields members := by
      unfold kept
      rw [List.mem_filter, hf]
      exact ⟨hm, rfl⟩
    have hsame := List.inj_on_of_nodup_map hnodup hkept (mem_kept_of_lookup hf hlookup) rfl
    rw [congrArg Prod.snd hsame]
    exact hcheck name first f hlookup hf

theorem fromMembers_eq_ok {nodes : List (String × Node)} {stop : Nat} :
    fromMembers .trial fields seen (toMembers members) = .ok (nodes, stop) ↔
      Accepts fields seen members ∧ nodes = (kept fields members).map (fun m => (m.1, m.2.toNode)) ∧
        stop = 0 := by
  induction members generalizing seen nodes stop with
  | nil =>
    have hnil : Accepts fields seen [] :=
      ⟨List.nodup_nil, List.forall_mem_nil _, List.forall_mem_nil _⟩
    rw [toMembers, fromMembers, Except.ok.injEq, Prod.mk.injEq]
    constructor
    · rintro ⟨rfl, rfl⟩
      exact ⟨hnil, rfl, rfl⟩
    · rintro ⟨-, rfl, rfl⟩
      exact ⟨rfl, rfl⟩
  | cons m rest ih =>
    obtain ⟨name, value⟩ := m
    rw [toMembers, fromMembers, ok_bind]
    cases hfield : fields.find? (·.name == name) with
    | none =>
      simp only [skip_toNode, ok_bind, ih]
      rw [accepts_cons_of_none hfield, kept_cons_of_none _ hfield]
    | some f =>
      have hplaced (x : Except Fault Unit) : placed (Source.trial.offset 0) x = x := placed_none x
      simp only [refuse_eq_ok, bind_eq_ok, hplaced, exists_unit, pure_eq, Except.ok.injEq, Prod.exists, ih,
        Prod.mk.injEq]
      rw [accepts_cons_of_field hfield, kept_cons_of_field hfield, List.map_cons]
      constructor
      · rintro ⟨hname, hvalue, nodes, stop, ⟨haccepts, rfl, rfl⟩, rfl, rfl⟩
        exact ⟨⟨hname, hvalue, haccepts⟩, rfl, rfl⟩
      · rintro ⟨⟨hname, hvalue, haccepts⟩, rfl, rfl⟩
        exact ⟨hname, hvalue, _, _, ⟨haccepts, rfl, rfl⟩, rfl, rfl⟩

theorem find_kept {name : String} {f : Field} (h : fields.find? (·.name == name) = some f)
    (members : List (String × Json)) :
    find ((kept fields members).map fun m => (m.1, m.2.toNode)) name = (members.lookup name).map toNode := by
  unfold find
  induction members with
  | nil => rfl
  | cons m rest ih =>
    obtain ⟨other, value⟩ := m
    by_cases hsame : name = other
    · subst hsame
      rw [kept_cons_of_field h, List.map_cons, List.lookup_cons_self, List.lookup_cons_self]
      rfl
    · have hne : (name == other) = false := beq_eq_false_iff_ne.mpr hsame
      rw [List.lookup_cons, hne]
      cases hfield : fields.find? (·.name == other) with
      | none => rw [kept_cons_of_none _ hfield, ih]
      | some g =>
        rw [kept_cons_of_field hfield, List.map_cons, List.lookup_cons, hne]
        exact ih

theorem decoder_object_eq_ok {α : Type} {r : Record α} {kind : String} {a : α} :
    r.decoder kind .trial (toNode (.object members)) = .ok a ↔ Accepts r.fields [] members ∧
      r.build .trial (find ((kept r.fields members).map fun m => (m.1, m.2.toNode))) = .ok a := by
  unfold decoder
  rw [toNode]
  simp only [bind_eq_ok, Prod.exists, fromMembers_eq_ok]
  constructor
  · rintro ⟨_, _, ⟨haccepts, rfl, rfl⟩, hbuild⟩
    exact ⟨haccepts, (placed_none _).symm.trans hbuild⟩
  · rintro ⟨haccepts, hbuild⟩
    exact ⟨_, _, ⟨haccepts, rfl, rfl⟩, (placed_none _).trans hbuild⟩

end Record

/-! ## Variants -/

/-- The values that name something: its name, or an object with the name as the only key and nothing beside
it. -/
inductive Names (name : String) : Json → Prop
  | bare : Names name (.string name)
  | keyed : Names name (.object [(name, .null)])

theorem nothing_eq_ok {j : Json} : Decoder.nothing .trial j.toNode = .ok () ↔ j = .null := by
  cases j with
  | null => exact ⟨fun _ => rfl, fun _ => rfl⟩
  | _ => simp [Decoder.nothing, toNode]

variable {α : Type} {known : List String} {pick : String → Option α} {a : α}

theorem pick_eq_ok {name : String} {fault : Fault} :
    (match pick name with
      | some b => Except.ok b
      | none => .error fault) = .ok a ↔ pick name = some a := by
  cases pick name with
  | none => simp
  | some b => simp

theorem variant_eq_ok {j : Json} :
    Decoder.variant known pick .trial j.toNode = .ok a ↔ ∃ name, Names name j ∧ pick name = some a := by
  constructor
  · intro h
    cases j with
    | string s => exact ⟨s, .bare, pick_eq_ok.mp h⟩
    | object members =>
      match members with
      | [(name, value)] =>
        -- Only an object of one member names a variant.
        simp only [toNode, toMembers, Decoder.variant, bind_eq_ok, exists_unit, nothing_eq_ok,
          Except.ok.injEq] at h
        obtain ⟨b, hname, rfl, rfl⟩ := h
        exact ⟨name, .keyed, pick_eq_ok.mp hname⟩
      | [] => cases h
      | _ :: _ :: _ => cases h
    | _ => cases h
  · rintro ⟨name, hname, hpick⟩
    cases hname with
    | bare => exact pick_eq_ok.mpr hpick
    | keyed =>
      have hkey : Decoder.keyName .trial known pick ⟨.ok name, 0, 0⟩ = .ok a := pick_eq_ok.mpr hpick
      simp only [toNode, toMembers, Decoder.variant, hkey, ok_bind]
      rfl

end TokenGovernance.Json
