import TokenGovernance.Json.Wire
import TokenGovernance.Proofs.Json.Node
import TokenGovernance.Proofs.Json.Record

/-! # Types that are read back from their JSON form

A value is read back from every document that holds its form, whatever the source of the document, and its form
can be printed. Both carry over to lists, to values that may be absent, and field by field to records.
-/

namespace TokenGovernance

open Outcome Json

namespace Json

theorem Fits.mono {d e : Nat} {j : Json} (h : j.Fits d) (hle : d ≤ e) : j.Fits e := by
  induction h generalizing e with
  | null => exact .null e
  | bool _ b => exact .bool e b
  | whole _ hn => exact .whole e hn
  | string _ s => exact .string e s
  | array _ ih =>
    obtain ⟨e, rfl⟩ := Nat.exists_eq_add_of_le' (Nat.le_trans (Nat.le_add_left 1 _) hle)
    exact .array fun j hj => ih j hj (by omega)
  | object _ ih =>
    obtain ⟨e, rfl⟩ := Nat.exists_eq_add_of_le' (Nat.le_trans (Nat.le_add_left 1 _) hle)
    exact .object fun m hm => ih m hm (by omega)

end Json

/-- Types whose values are read back from their form, with no more than `depth` containers around each other in
it. -/
class LawfulWire (α : Type) [Wire α] where
  depth : Nat
  fits (a : α) : (toJson a).Fits depth
  decoder_eq {a : α} {src : Source} {node : Node} (h : node.Denotes (toJson a)) :
    (Wire.decoder : Decoder α) src node = .ok a

/-! ## Values without parts -/

section

variable {src : Source} {node : Node}

theorem Json.string_eq {s : String} (h : node.Denotes (.string s)) : Decoder.string src node = .ok s := by
  cases h
  rfl

theorem Json.bool_eq {b : Bool} (h : node.Denotes (.bool b)) : Decoder.bool src node = .ok b := by
  cases h
  rfl

theorem Json.integer_eq {name : String} {low high n : Int} (h : node.Denotes (.number (.whole n)))
    (hn : low ≤ n ∧ n ≤ high) : Decoder.integer name low high src node = .ok n := by
  cases h
  exact if_pos hn

theorem Json.name_eq {α : Type} {known : List String} {pick : String → Option α} {name : String} {a : α}
    (h : node.Denotes (.string name)) (hpick : pick name = some a) : Decoder.name known pick src node = .ok a := by
  cases h
  unfold Decoder.name
  dsimp only
  rw [hpick]

theorem Json.variant_eq {α : Type} {known : List String} {pick : String → Option α} {name : String} {a : α}
    (h : node.Denotes (.string name)) (hpick : pick name = some a) :
    Decoder.variant known pick src node = .ok a := by
  cases h
  unfold Decoder.variant
  cases src <;> simp only [hpick]

end

instance : LawfulWire String where
  depth := 0
  fits s := .string 0 s
  decoder_eq h := string_eq h

instance : LawfulWire Bool where
  depth := 0
  fits b := .bool 0 b
  decoder_eq h := bool_eq h

instance : LawfulWire UInt8 where
  depth := 0
  fits n := .whole 0 (by have := n.toNat_lt; omega)
  decoder_eq {n src node} h := by
    have hn := n.toNat_lt
    change (Decoder.integer "u8" 0 255 src node).map _ = _
    rw [integer_eq h (by omega)]
    exact congrArg Except.ok UInt8.ofNat_toNat

instance : LawfulWire UInt32 where
  depth := 0
  fits n := .whole 0 (by have := n.toNat_lt; omega)
  decoder_eq {n src node} h := by
    have hn := n.toNat_lt
    change (Decoder.integer "u32" 0 4294967295 src node).map _ = _
    rw [integer_eq h (by omega)]
    exact congrArg Except.ok UInt32.ofNat_toNat

instance : LawfulWire UInt64 where
  depth := 0
  fits n := .whole 0 (by have := n.toNat_lt; omega)
  decoder_eq {n src node} h := by
    have hn := n.toNat_lt
    change (Decoder.integer "u64" 0 18446744073709551615 src node).map _ = _
    rw [integer_eq h (by omega)]
    exact congrArg Except.ok UInt64.ofNat_toNat

instance : LawfulWire Int8 where
  depth := 0
  fits n := .whole 0 (by have := n.le_toInt; have := n.toInt_lt; omega)
  decoder_eq {n src node} h := by
    have hlow := n.le_toInt
    have hhigh := n.toInt_lt
    change (Decoder.integer "i8" (-128) 127 src node).map _ = _
    rw [integer_eq h (by omega)]
    exact congrArg Except.ok (Int8.ofInt_toInt n)

instance : LawfulWire Int64 where
  depth := 0
  fits n := .whole 0 (by have := n.le_toInt; have := n.toInt_lt; omega)
  decoder_eq {n src node} h := by
    have hlow := n.le_toInt
    have hhigh := n.toInt_lt
    change (Decoder.integer "i64" (-9223372036854775808) 9223372036854775807 src node).map _ = _
    rw [integer_eq h (by omega)]
    exact congrArg Except.ok (Int64.ofInt_toInt n)

/-! ## Lists and options -/

variable {α : Type} [Wire α] [LawfulWire α]

theorem LawfulWire.items_eq {src : Source} {l : List α} {parts : Items} (h : parts.Denotes (l.map toJson)) :
    Decoder.items src Wire.decoder parts = .ok l := by
  induction l generalizing parts with
  | nil =>
    cases h
    rfl
  | cons a rest ih =>
    cases h with
    | item tail ha hrest =>
      rw [Decoder.items, decoder_eq ha, ih hrest]
      rfl

instance : LawfulWire (List α) where
  depth := LawfulWire.depth α + 1
  fits l := .array fun j hj => by
    obtain ⟨a, -, rfl⟩ := List.mem_map.mp hj
    exact LawfulWire.fits a
  decoder_eq h := by
    cases h with
    | array start hdepth hparts => exact LawfulWire.items_eq hparts

theorem Json.optional_eq {β : Type} {d : Decoder β} {b : β} {j : Json} {src : Source} {node : Node} (hj : j ≠ .null)
    (h : node.Denotes j) (hd : d src node = .ok b) : d.optional src node = .ok (some b) := by
  unfold Decoder.optional
  cases h with
  | null => exact absurd rfl hj
  | _ =>
    dsimp only
    rw [hd]
    rfl

/-- Types whose values never look absent. -/
class SolidWire (α : Type) [Wire α] : Prop where
  toJson_ne_null (a : α) : toJson a ≠ .null

instance : SolidWire String where
  toJson_ne_null _ := nofun

instance : SolidWire UInt32 where
  toJson_ne_null _ := nofun

instance : SolidWire Int64 where
  toJson_ne_null _ := nofun

instance [SolidWire α] : LawfulWire (Option α) where
  depth := LawfulWire.depth α
  fits
    | none => .null _
    | some a => LawfulWire.fits a
  decoder_eq {a src node} h := by
    cases a with
    | none =>
      cases h
      rfl
    | some a => exact optional_eq (SolidWire.toJson_ne_null a) h (LawfulWire.decoder_eq h)

/-! ## Tables -/

theorem Json.entries_eq_of_forall₂ {κ β : Type} {key : String → Except String κ} {d : Decoder β} {src : Source}
    {members : List (String × Json)} {pairs : List (κ × β)} {parts : Members}
    (h : List.Forall₂ (fun m p => key m.1 = .ok p.1 ∧ ∀ node, node.Denotes m.2 → d src node = .ok p.2) members pairs)
    (hparts : parts.Denotes members) : Decoder.entries src key d parts = .ok pairs := by
  induction h generalizing parts with
  | nil =>
    cases hparts
    rfl
  | cons hentry _ ih =>
    cases hparts with
    | member name stop leave tail hnode hrest =>
      obtain ⟨hkey, hvalue⟩ := hentry
      rw [Decoder.entries, ok_bind, hkey, hvalue _ hnode, ih hrest]
      rfl

theorem Json.entries_eq {src : Source} {members : List (String × Json)} {parts : Members}
    (h : parts.Denotes members) : Decoder.entries src .ok .any parts = .ok (normalMembers members) := by
  refine entries_eq_of_forall₂ ?_ h
  clear h
  induction members with
  | nil => exact .nil
  | cons m rest ih => exact .cons ⟨rfl, fun _ hnode => hnode.value_eq⟩ ih

theorem Json.table_eq {src : Source} {node : Node} {members : List (String × Json)}
    (h : node.Denotes (.object members)) : Decoder.table .ok .any src node = .ok (normalMembers members) := by
  cases h with
  | object start hdepth hparts => exact entries_eq hparts

namespace Json.Record

/-! ## Records -/

variable {β : Type} {members : List (String × Json)}

/-- What the fields of a record find are the members of their names. -/
def Finds (find : String → Option Node) (fields : List Field) (members : List (String × Json)) : Prop :=
  ∀ f ∈ fields, Option.Rel Node.Denotes (find f.name) (members.lookup f.name)

/-- The fields of a record accept the members of their names. -/
def Checks (fields : List Field) (members : List (String × Json)) : Prop :=
  ∀ f ∈ fields, ∀ j, members.lookup f.name = some j → ∀ src node, node.Denotes j → f.check src node = .ok ()

/-- A record that reads members as a value: its fields accept them, and it is built of them. -/
structure Reads (r : Record β) (members : List (String × Json)) (b : β) : Prop where
  check : Checks r.fields members
  build : ∀ src find, Finds find r.fields members → r.build src find = .ok b

theorem Reads.fieldOr {name : String} {d : Decoder β} {fillable : Bool} {absent : Except Fault β} {j : Json} {b : β}
    (hd : ∀ src node, node.Denotes j → d src node = .ok b) (h : members.lookup name = some j) :
    (fieldOr name d fillable absent).Reads members b := by
  constructor
  · intro f hf j' hj' src node hnode
    obtain rfl := List.mem_singleton.mp hf
    obtain rfl := Option.some.inj (h.symm.trans hj')
    dsimp only
    rw [hd src node hnode]
    rfl
  · intro src find hfind
    have hrel := hfind _ (List.mem_singleton_self _)
    dsimp only at hrel
    rw [h] at hrel
    unfold Record.fieldOr
    dsimp only
    generalize find name = found at hrel
    cases hrel with
    | some hnode => exact hd src _ hnode

theorem Reads.absent {name : String} {d : Decoder β} {fillable : Bool} {b : β} (h : members.lookup name = none) :
    (Record.fieldOr name d fillable (.ok b)).Reads members b := by
  constructor
  · intro f hf j hj
    obtain rfl := List.mem_singleton.mp hf
    cases h.symm.trans hj
  · intro src find hfind
    have hrel := hfind _ (List.mem_singleton_self _)
    dsimp only at hrel
    rw [h] at hrel
    unfold Record.fieldOr
    dsimp only
    generalize find name = found at hrel
    cases hrel
    rfl

/-- Members hold a value under a name, or have no member of that name where `absent` says that this is the same. -/
def Holds (members : List (String × Json)) (name : String) (j : Json) (absent : Prop) : Prop :=
  members.lookup name = some j ∨ members.lookup name = none ∧ absent

theorem Reads.fieldDefault {name : String} {d : Decoder β} {value b : β} {j : Json}
    (hd : ∀ src node, node.Denotes j → d src node = .ok b) (h : Holds members name j (b = value)) :
    (fieldDefault name d value).Reads members b := by
  rcases h with h | ⟨h, rfl⟩
  · exact .fieldOr hd h
  · exact .absent h

theorem Reads.field {name : String} {a : α} (h : members.lookup name = some (toJson a)) :
    (field name Wire.decoder).Reads members a :=
  .fieldOr (fun _ _ => LawfulWire.decoder_eq) h

theorem Reads.nullable [SolidWire α] {name : String} {a : Option α} (h : members.lookup name = some (toJson a)) :
    (nullable name Wire.decoder).Reads members a :=
  .fieldOr (fun _ _ => LawfulWire.decoder_eq) h

theorem Reads.map {γ : Type} {f : β → γ} {r : Record β} {b : β} (h : r.Reads members b) :
    (f <$> r).Reads members (f b) := by
  refine ⟨h.check, fun src find hfind => ?_⟩
  change (r.build src find).map f = _
  rw [h.build src find hfind]
  rfl

theorem Reads.seq {γ : Type} {f : Record (β → γ)} {x : Record β} {g : β → γ} {b : β} (hf : f.Reads members g)
    (hx : x.Reads members b) : (f <*> x).Reads members (g b) := by
  constructor
  · intro field hfield
    rcases List.mem_append.mp hfield with hfield | hfield
    · exact hf.check field hfield
    · exact hx.check field hfield
  · intro src find hfind
    change (f.build src find >>= fun g => x.build src find >>= fun b => pure (g b)) = _
    rw [hf.build src find fun field h => hfind field (List.mem_append_left _ h),
      hx.build src find fun field h => hfind field (List.mem_append_right _ h)]
    rfl

theorem mem_keys_of_lookup {name : String} {j : Json} (h : members.lookup name = some j) :
    name ∈ members.map (·.1) := by
  obtain ⟨front, back, rfl, -⟩ := List.lookup_eq_some_iff.mp h
  simp

section

variable {fields : List Field} {nodes : List (String × Node)} {name : String} {j : Json}

theorem lookup_cons_of_ne {γ : Type} {other : String} {value : γ} {rest : List (String × γ)} (h : name ≠ other) :
    ((other, value) :: rest).lookup name = rest.lookup name := by
  rw [List.lookup_cons, beq_false_of_ne h]

theorem Checks.head {f : Field} {src : Source} {node : Node} (h : Checks fields ((name, j) :: members))
    (hfield : fields.find? (·.name == name) = some f) (hnode : node.Denotes j) : f.check src node = .ok () := by
  have hname : f.name = name := beq_iff_eq.mp (List.find?_eq_some_iff_append.mp hfield).1
  apply h f (List.mem_of_find?_eq_some hfield) j _ src node hnode
  rw [hname, List.lookup_cons_self]

theorem Checks.tail (h : Checks fields ((name, j) :: members)) (hnew : name ∉ (kept fields members).map (·.1)) :
    Checks fields members := by
  intro f hf j' hj'
  have hkept : f.name ∈ (kept fields members).map (·.1) := by
    rw [keys_kept]
    exact List.mem_filter.mpr ⟨mem_keys_of_lookup hj', decide_eq_true (List.mem_map_of_mem hf)⟩
  have hne : f.name ≠ name := fun heq => hnew (heq ▸ hkept)
  exact h f hf j' ((lookup_cons_of_ne hne).trans hj')

theorem Finds.cons {node : Node} (hnode : node.Denotes j) (h : Finds (find nodes) fields members) :
    Finds (find ((name, node) :: nodes)) fields ((name, j) :: members) := by
  intro f hf
  unfold find
  by_cases heq : f.name = name
  · rw [heq, List.lookup_cons_self, List.lookup_cons_self]
    exact .some hnode
  · rw [lookup_cons_of_ne heq, lookup_cons_of_ne heq]
    exact h f hf

theorem Finds.skip (hfield : fields.find? (·.name == name) = none) (h : Finds (find nodes) fields members) :
    Finds (find nodes) fields ((name, j) :: members) := by
  intro f hf
  have hne : f.name ≠ name := by
    have hother := List.find?_eq_none.mp hfield f hf
    simpa using hother
  rw [lookup_cons_of_ne hne]
  exact h f hf

end

theorem fromMembers_eq (src : Source) {fields : List Field} {parts : Members} {seen : List String}
    (hparts : parts.Denotes members) (honce : ((kept fields members).map (·.1)).Nodup)
    (hseen : ∀ name ∈ (kept fields members).map (·.1), name ∉ seen) (hcheck : Checks fields members) :
    ∃ nodes stop, fromMembers src fields seen parts = .ok (nodes, stop) ∧ Finds (find nodes) fields members := by
  induction members generalizing parts seen with
  | nil =>
    cases hparts with
    | done stop => exact ⟨[], stop, rfl, fun f hf => .none⟩
  | cons m rest ih =>
    cases hparts with
    | member name stop leave tail hnode hrest =>
      rename_i node j parts
      rw [fromMembers, ok_bind]
      cases hfield : fields.find? (·.name == name) with
      | none =>
        rw [kept_cons_of_none j hfield] at honce hseen
        obtain ⟨nodes, stop, hread, hfinds⟩ := ih hrest honce hseen (hcheck.tail (not_mem_kept rest hfield))
        refine ⟨nodes, stop, ?_, hfinds.skip hfield⟩
        dsimp only
        rw [hnode.skip_eq, ok_bind, hread]
      | some f =>
        rw [kept_cons_of_field hfield, List.map_cons] at honce hseen
        obtain ⟨hnew, honce⟩ := List.nodup_cons.mp honce
        obtain ⟨hfresh, hseen⟩ := List.forall_mem_cons.mp hseen
        -- A key that was seen may not come again, and the member in front is seen from now on.
        have hunseen : ∀ other ∈ (kept fields rest).map (·.1), other ∉ name :: seen := by
          intro other hother hmem
          rcases List.mem_cons.mp hmem with rfl | hmem
          · exact hnew hother
          · exact hseen other hother hmem
        obtain ⟨nodes, stop, hread, hfinds⟩ := ih hrest honce hunseen (hcheck.tail hnew)
        refine ⟨(name, node) :: nodes, stop, ?_, hfinds.cons hnode⟩
        dsimp only
        rw [if_neg hfresh, hcheck.head hfield hnode]
        change (fromMembers src fields (name :: seen) parts >>= _) = _
        rw [hread]
        rfl

theorem Reads.decoder_eq_of_once {kind : String} {r : Record β} {b : β} {src : Source} {node : Node}
    (h : r.Reads members b) (honce : ((kept r.fields members).map (·.1)).Nodup)
    (hnode : node.Denotes (.object members)) : r.decoder kind src node = .ok b := by
  cases hnode with
  | object start hdepth hparts =>
    obtain ⟨nodes, stop, hread, hfinds⟩ :=
      fromMembers_eq src hparts honce (fun _ _ => List.not_mem_nil) h.check
    unfold decoder
    dsimp only
    rw [hread, ok_bind, h.build src _ hfinds]
    rfl

theorem Reads.decoder_eq {kind : String} {r : Record β} {b : β} {src : Source} {node : Node} (h : r.Reads members b)
    (hnodup : (members.map (·.1)).Nodup) (hnode : node.Denotes (.object members)) :
    r.decoder kind src node = .ok b :=
  h.decoder_eq_of_once ((List.filter_sublist.map _).nodup hnodup) hnode

end Json.Record

namespace Json.Case

/-! ## Tagged records -/

variable {β : Type} (src : Source) {tag : String} {cases : List (Case β)} {c : Case β}
  {members : List (String × Json)}

theorem fromMembers_untagged {parts : Members} (hparts : parts.Denotes members) (h : tag ∉ members.map (·.1)) :
    ∃ parts', fromMembers src tag cases (some c) parts = .ok (c, parts') ∧ parts'.Denotes members := by
  induction members generalizing parts with
  | nil =>
    cases hparts with
    | done stop => exact ⟨_, rfl, .done stop⟩
  | cons m rest ih =>
    cases hparts with
    | member name stop leave tail hnode hrest =>
      obtain ⟨hne, h⟩ := not_or.mp (fun hmem => h (List.mem_cons.mpr hmem))
      obtain ⟨parts', hread, hparts'⟩ := ih hrest h
      refine ⟨_, ?_, .member name stop leave tail hnode hparts'⟩
      rw [fromMembers, ok_bind, if_neg (Ne.symm hne), hnode.value_eq, ok_bind, hread]
      rfl

theorem fromMembers_eq {parts : Members} {name : String} (hparts : parts.Denotes members)
    (hnodup : (members.map (·.1)).Nodup) (htag : members.lookup tag = some (.string name))
    (hpick : pick cases name = some c) :
    ∃ parts', fromMembers src tag cases none parts = .ok (c, parts') ∧
      parts'.Denotes (members.filter (·.1 != tag)) := by
  -- The tag may stand anywhere: members in front of it are kept by the induction, those behind it at once.
  induction members generalizing parts with
  | nil => cases htag
  | cons m rest ih =>
    cases hparts with
    | member key stop leave tail hnode hrest =>
      rename_i node j parts
      obtain ⟨hnew, hnodup⟩ := List.nodup_cons.mp hnodup
      by_cases heq : key = tag
      · subst heq
        obtain rfl := Option.some.inj (List.lookup_cons_self.symm.trans htag)
        have hname : tagDecoder cases src node = .ok c := name_eq hnode hpick
        obtain ⟨parts', hread, hparts'⟩ := fromMembers_untagged src (c := c) hrest hnew
        refine ⟨parts', ?_, ?_⟩
        · rw [fromMembers, ok_bind, if_pos rfl, if_neg (by simp), hname]
          exact hread
        · rw [List.filter_cons_of_neg (by simp), List.filter_eq_self.mpr]
          · exact hparts'
          · intro m hm
            exact bne_iff_ne.mpr fun heq => hnew (List.mem_map.mpr ⟨m, hm, heq⟩)
      · rw [Record.lookup_cons_of_ne (Ne.symm heq)] at htag
        obtain ⟨parts', hread, hparts'⟩ := ih hrest hnodup htag
        refine ⟨.member ⟨.ok key, stop, leave⟩ node tail parts', ?_, ?_⟩
        · rw [fromMembers, ok_bind, if_neg heq, hnode.value_eq, ok_bind, hread]
          rfl
        · rw [List.filter_cons_of_pos (by simpa using heq)]
          exact .member key stop leave tail hnode hparts'

theorem decoder_eq {src : Source} {kind name : String} {node : Node} {b : β} (hnode : node.Denotes (.object members))
    (hnodup : (members.map (·.1)).Nodup) (htag : members.lookup tag = some (.string name))
    (hpick : pick cases name = some c)
    (hcontent : ∀ node, node.Denotes (.object (members.filter (·.1 != tag))) → c.content .besideTag node = .ok b) :
    decoder kind tag cases src node = .ok b := by
  cases hnode with
  | object start hdepth hparts =>
    obtain ⟨parts', hread, hparts'⟩ := fromMembers_eq src hparts hnodup htag hpick
    unfold decoder
    dsimp only
    rw [checkDepth_eq_ok hdepth, ok_bind, hread, ok_bind]
    exact hcontent _ (.object 0 (by decide) hparts')

end Json.Case

/-! ## Reading back -/

/-- A value is what is read from its form, and from either text of it. -/
structure Wire.Reloads {β : Type} [Wire β] (b : β) : Prop where
  value : decode Wire.decoder (toJson b) = .ok b
  compact : decodeText Wire.decoder (toJson b).compact = .ok b
  indented : decodeText Wire.decoder (toJson b).indented = .ok b

namespace LawfulWire

theorem fits_cons {d : Nat} {name : String} {a : α} {members : List (String × Json)} (hd : depth α ≤ d)
    (h : ∀ m ∈ members, m.2.Fits d) : ∀ m ∈ (name, toJson a) :: members, m.2.Fits d :=
  List.forall_mem_cons.mpr ⟨(fits a).mono hd, h⟩

theorem reloads (hdepth : depth α < depthLimit) (a : α) : Wire.Reloads a where
  value := decoder_eq (denotes_toNode _)
  compact := ((fits a).compact hdepth).decodeText_eq fun _ => decoder_eq
  indented := ((fits a).indented hdepth).decodeText_eq fun _ => decoder_eq

end LawfulWire
end TokenGovernance
