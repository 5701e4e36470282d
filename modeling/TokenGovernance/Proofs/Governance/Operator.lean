import TokenGovernance.Governance.Operator
import TokenGovernance.Proofs.Identity.Codec
import TokenGovernance.Proofs.Json.Record

/-! # Spellings of operators

Which values spell an operator: the digits of its key, or an object that holds them and may hold a role. The
digits are of either case and may have blanks around them. What is written of an operator spells it.
-/

namespace TokenGovernance

open Outcome

theorem Role.ofName?_eq_some {s : String} {r : Role} : ofName? s = some r ↔ s = r.name := by
  constructor
  · intro h
    have hname := List.find?_some h
    exact (beq_iff_eq.mp hname).symm
  · rintro rfl
    exact ofName?_name r

namespace Operator

/-- A value spells an operator. An object has no two members of the names that are read, and may have any
others. -/
inductive Spells : Json → Operator → Prop
  | bare (digits : String) (key : PublicKey) (h : (Text.trim digits).toUpper = key.toHex) :
      Spells (.string digits) ⟨key, .operator⟩
  | full (members : List (String × Json)) (digits : String) (key : PublicKey) (role : Role)
      (honce : ((members.map (·.1)).filter fun name => name ∈ ["public_key", "role"]).Nodup)
      (hdigits : members.lookup "public_key" = some (.string digits))
      (h : (Text.trim digits).toUpper = key.toHex)
      (hrole : (members.lookup "role" = none ∧ role = .operator) ∨
        ∃ value, members.lookup "role" = some value ∧ Json.Names role.name value) :
      Spells (.object members) ⟨key, role⟩

/-! ## Keys and roles -/

theorem keyDecoder_eq_ok {j : Json} {key : PublicKey} :
    (Wire.decoder : Json.Decoder PublicKey) .trial j.toNode = .ok key ↔
      ∃ digits, j = .string digits ∧ (Text.trim digits).toUpper = key.toHex := by
  change spelled PublicKey.ofHex .trial j.toNode = _ ↔ _
  unfold spelled Json.Decoder.refine
  simp only [bind_eq_ok, Json.string_eq_ok, mapError_eq_ok, PublicKey.ofHex_eq_ok]

theorem roleDecoder_eq_ok {j : Json} {role : Role} :
    (Wire.decoder : Json.Decoder Role) .trial j.toNode = .ok role ↔ Json.Names role.name j := by
  change Json.Decoder.variant _ _ .trial j.toNode = _ ↔ _
  rw [Json.variant_eq_ok]
  simp only [Role.ofName?_eq_some]
  constructor
  · rintro ⟨name, hname, rfl⟩
    exact hname
  · intro h
    exact ⟨role.name, h, rfl⟩

/-! ## Either form -/

theorem bareDecoder_eq_ok {j : Json} {o : Operator} :
    bareDecoder .trial j.toNode = .ok o ↔
      ∃ digits key, j = .string digits ∧ (Text.trim digits).toUpper = key.toHex ∧ o = ⟨key, .operator⟩ := by
  change Except.map ofKey _ = _ ↔ _
  simp only [map_eq_ok, keyDecoder_eq_ok]
  constructor
  · rintro ⟨key, ⟨digits, rfl, h⟩, rfl⟩
    exact ⟨digits, key, rfl, h, rfl⟩
  · rintro ⟨digits, key, rfl, h, rfl⟩
    exact ⟨key, ⟨digits, rfl, h⟩, rfl⟩

/-- A key with a role as a record. -/
def fullRecord : Json.Record Operator :=
  Operator.mk <$> Json.Record.field "public_key" Wire.decoder
    <*> Json.Record.fieldDefault "role" Wire.decoder Role.operator

theorem build_fullRecord_eq_ok {find : String → Option Json.Node} {o : Operator} :
    fullRecord.build .trial find = .ok o ↔
      (∃ node, find "public_key" = some node ∧ (Wire.decoder : Json.Decoder PublicKey) .trial node = .ok o.key) ∧
      ((find "role" = none ∧ o.role = .operator) ∨
        ∃ node, find "role" = some node ∧ (Wire.decoder : Json.Decoder Role) .trial node = .ok o.role) := by
  unfold fullRecord Json.Record.field Json.Record.fieldDefault
  simp only [Json.Record.build_seq_eq_ok, Json.Record.build_map_eq_ok, Json.Record.build_fieldOr_eq_ok]
  constructor
  · rintro ⟨_, ⟨key, ⟨-, hmissing⟩ | hkey, rfl⟩, role, ⟨hnone, hrole⟩ | hrole, rfl⟩
    · cases hmissing
    · cases hmissing
    · exact ⟨hkey, .inl ⟨hnone, (Except.ok.inj hrole).symm⟩⟩
    · exact ⟨hkey, .inr hrole⟩
  · rintro ⟨hkey, ⟨hnone, hrole⟩ | hrole⟩
    · exact ⟨_, ⟨_, .inr hkey, rfl⟩, _, .inl ⟨hnone, congrArg _ hrole.symm⟩, rfl⟩
    · exact ⟨_, ⟨_, .inr hkey, rfl⟩, _, .inr hrole, rfl⟩

theorem fullDecoder_eq_ok {members : List (String × Json)} {o : Operator} :
    fullDecoder .trial (Json.object members).toNode = .ok o ↔ Spells (.object members) o := by
  have hnames : fullRecord.fields.map (·.name) = ["public_key", "role"] := rfl
  have hkey := Json.Record.find_kept
    (show fullRecord.fields.find? (·.name == "public_key") = some _ from rfl) members
  have hrole := Json.Record.find_kept (show fullRecord.fields.find? (·.name == "role") = some _ from rfl) members
  change fullRecord.decoder "struct variant OperatorRepr::Full" .trial _ = _ ↔ _
  rw [Json.Record.decoder_object_eq_ok, build_fullRecord_eq_ok, hkey, hrole]
  simp only [Option.map_eq_some_iff, Option.map_eq_none_iff, exists_exists_and_eq_and, keyDecoder_eq_ok,
    roleDecoder_eq_ok]
  constructor
  · rintro ⟨haccepts, ⟨_, hlookup, digits, rfl, hdigits⟩, hrole⟩
    have hnodup := haccepts.nodup
    rw [Json.Record.keys_kept, hnames] at hnodup
    exact .full members digits o.key o.role hnodup hlookup hdigits hrole
  · intro h
    cases h with
    | full _ digits key role honce hlookup hdigits hrole =>
      -- No two members are for one field, so that the first of either name are all that is checked.
      refine ⟨.of_lookup ?_ ?_, ⟨_, hlookup, digits, rfl, hdigits⟩, hrole⟩
      · rw [Json.Record.keys_kept, hnames]
        exact honce
      · intro name value f hvalue hf
        have hname : f.name = name := by simpa using List.find?_some hf
        have hfield : f ∈ fullRecord.fields := List.mem_of_find?_eq_some hf
        change f ∈ [⟨"public_key", _, false⟩, ⟨"role", _, true⟩] at hfield
        rcases List.mem_cons.mp hfield with rfl | hfield
        · obtain rfl := Option.some.inj (hlookup.symm.trans (hname ▸ hvalue))
          exact map_eq_ok.mpr ⟨key, keyDecoder_eq_ok.mpr ⟨digits, rfl, hdigits⟩, rfl⟩
        · obtain rfl := List.mem_singleton.mp hfield
          obtain ⟨hnone, -⟩ | ⟨first, hfirst, hnames⟩ := hrole
          · rw [← hname, hnone] at hvalue
            cases hvalue
          · obtain rfl := Option.some.inj (hfirst.symm.trans (hname ▸ hvalue))
            exact map_eq_ok.mpr ⟨role, roleDecoder_eq_ok.mpr hnames, rfl⟩

/-- The form of an operator is told by whether there are members. -/
def formOf : Json → Json.Decoder Operator
  | .object _ => fullDecoder
  | _ => bareDecoder

theorem formOf_eq_ok {j : Json} {o : Operator} : formOf j .trial j.toNode = .ok o ↔ Spells j o := by
  cases j with
  | object members => exact fullDecoder_eq_ok
  | string digits =>
    change bareDecoder .trial (Json.string digits).toNode = _ ↔ _
    rw [bareDecoder_eq_ok]
    constructor
    · rintro ⟨_, key, hdigits, h, rfl⟩
      cases hdigits
      exact .bare digits key h
    · intro h
      cases h with
      | bare _ key h => exact ⟨digits, key, rfl, h, rfl⟩
  | _ =>
    constructor
    · intro h
      cases h
    · intro h
      cases h

theorem decode_eq_mapError (j : Json) :
    Json.decode decoder j = (formOf j .trial j.toNode).mapError fun _ => ⟨.noVariant "OperatorRepr", none⟩ := by
  unfold Json.decode decoder
  rw [Json.value_toNode, ok_bind]
  cases j with
  | object members => rfl
  | _ => rfl

/-- The operator that a value spells, if it spells one. -/
def ofJson? (j : Json) : Option Operator :=
  (formOf j .trial j.toNode).toOption

theorem ofJson?_eq_some {j : Json} {o : Operator} : ofJson? j = some o ↔ Spells j o := by
  rw [← formOf_eq_ok]
  unfold ofJson?
  cases formOf j .trial j.toNode with
  | error fault => simp [Except.toOption]
  | ok found => simp [Except.toOption]

theorem decode_eq (j : Json) :
    Json.decode decoder j = match ofJson? j with
      | some o => .ok o
      | none => .error ⟨.noVariant "OperatorRepr", none⟩ := by
  rw [decode_eq_mapError]
  unfold ofJson?
  cases formOf j .trial j.toNode with
  | error fault => rfl
  | ok found => rfl

theorem decode_eq_ok {j : Json} {o : Operator} : Json.decode decoder j = .ok o ↔ Spells j o := by
  rw [decode_eq, ← ofJson?_eq_some]
  cases ofJson? j with
  | none => simp
  | some found => simp

/-! ## Documents -/

/-- Every document that holds the value is read as the operator, whatever the source of the document. -/
def ReadsAs (j : Json) (o : Operator) : Prop :=
  ∀ src node, node.Denotes j → decoder src node = .ok o

theorem readsAs_string {key : PublicKey} {text : String} (h : (Text.trim text).toUpper = key.toHex) :
    ReadsAs (.string text) (ofKey key) := by
  intro src node hnode
  have hkey : spelled PublicKey.ofHex .trial node = .ok key := spelled_eq hnode (PublicKey.ofHex_eq_ok.mpr h)
  have hbare : bareDecoder .trial node = .ok (ofKey key) := congrArg (Except.map ofKey) hkey
  unfold decoder
  rw [hnode.value_eq, ok_bind]
  cases hnode with
  | string _ start stop =>
    dsimp only
    rw [hbare]
    rfl

/-- Members that tell an operator, in any order and with others between them. A role that is not told is that of an
operator. -/
structure Told (o : Operator) (members : List (String × Json)) : Prop where
  once : ((members.map (·.1)).filter fun name => name ∈ ["public_key", "role"]).Nodup
  key : ∃ text, members.lookup "public_key" = some (.string text) ∧ (Text.trim text).toUpper = o.key.toHex
  role : Json.Record.Holds members "role" (toJson o.role) (o.role = .operator)

theorem Told.readsAs {o : Operator} {members : List (String × Json)} (h : o.Told members) :
    ReadsAs (.object members) o := by
  intro src node hnode
  obtain ⟨text, hlookup, htext⟩ := h.key
  have hrecord : fullRecord.Reads members o :=
    (Json.Record.Reads.fieldOr (fun _ _ hpart => spelled_eq hpart (PublicKey.ofHex_eq_ok.mpr htext)) hlookup).map.seq
      (.fieldDefault (fun _ _ hpart => Json.variant_eq hpart (Role.ofName?_name _)) h.role)
  have honce : ((Json.Record.kept fullRecord.fields members).map (·.1)).Nodup := by
    rw [Json.Record.keys_kept]
    exact h.once
  have hfull : fullDecoder .trial node = .ok o := hrecord.decoder_eq_of_once honce hnode
  unfold decoder
  rw [hnode.value_eq, ok_bind]
  cases hnode with
  | object start hdepth hparts =>
    dsimp only
    rw [hfull]
    rfl

theorem exists_told (o : Operator) : ∃ members, toJson o = .object members ∧ o.Told members := by
  refine ⟨[("public_key", toJson o.key), ("role", toJson o.role)], rfl, by simp, ⟨o.key.toHex, rfl, ?_⟩, .inl rfl⟩
  exact PublicKey.ofHex_eq_ok.mp o.key.ofHex_toHex

end Operator

instance : LawfulWire Role where
  depth := 0
  fits r := .string 0 r.name
  decoder_eq {r _ _} h := Json.variant_eq h r.ofName?_name

instance : LawfulWire Operator where
  depth := 1
  fits o := .object <|
    LawfulWire.fits_cons (by decide) <| LawfulWire.fits_cons (by decide) <| List.forall_mem_nil _
  decoder_eq {o _ _} h := by
    obtain ⟨members, hmembers, htold⟩ := o.exists_told
    rw [hmembers] at h
    exact htold.readsAs _ _ h

namespace Operator

/-! ## Lists -/

theorem mapM_decode (items : List Json) :
    items.mapM (Json.decode decoder) =
      if items.any fun item => (ofJson? item).isNone then .error ⟨.noVariant "OperatorRepr", none⟩
      else .ok (items.filterMap ofJson?) := by
  induction items with
  | nil => rfl
  | cons item rest ih =>
    rw [List.mapM_cons, ih, decode_eq, List.any_cons]
    cases hitem : ofJson? item with
    | none => rfl
    | some o =>
      rw [List.filterMap_cons_some hitem, Option.isNone_some, Bool.false_or, ok_bind]
      split
      · rfl
      · rfl

theorem forall₂_spells_iff {items : List Json} {operators : List Operator} :
    List.Forall₂ Spells items operators ↔
      (items.any fun item => (ofJson? item).isNone) = false ∧ items.filterMap ofJson? = operators := by
  constructor
  · intro h
    induction h with
    | nil => exact ⟨rfl, rfl⟩
    | cons hitem _ ih =>
      have hread := ofJson?_eq_some.mpr hitem
      rw [List.any_cons, hread, List.filterMap_cons_some hread, ih.1, ih.2]
      exact ⟨rfl, rfl⟩
  · rintro ⟨hall, rfl⟩
    induction items with
    | nil => exact .nil
    | cons item rest ih =>
      rw [List.any_cons, Bool.or_eq_false_iff, Option.isNone_eq_false_iff, Option.isSome_iff_exists] at hall
      obtain ⟨⟨o, ho⟩, hrest⟩ := hall
      rw [List.filterMap_cons_some ho]
      exact .cons (ofJson?_eq_some.mp ho) (ih hrest)

theorem mem_of_spells {items : List Json} {operators : List Operator} (h : List.Forall₂ Spells items operators)
    {item : Json} (hitem : item ∈ items) {o : Operator} (ho : Spells item o) : o ∈ operators := by
  obtain ⟨-, rfl⟩ := forall₂_spells_iff.mp h
  exact List.mem_filterMap.mpr ⟨item, hitem, ofJson?_eq_some.mpr ho⟩

theorem sublist_of_spells {items items' : List Json} {operators operators' : List Operator}
    (h : List.Forall₂ Spells items operators) (h' : List.Forall₂ Spells items' operators')
    (hsub : items'.Sublist items) : operators'.Sublist operators := by
  obtain ⟨-, rfl⟩ := forall₂_spells_iff.mp h
  obtain ⟨-, rfl⟩ := forall₂_spells_iff.mp h'
  exact hsub.filterMap ofJson?

end Operator
end TokenGovernance
