import TokenGovernance.Ledger.Snapshot
import TokenGovernance.Proofs.Identity.Account
import TokenGovernance.Proofs.Identity.Codec
import TokenGovernance.Proofs.Json.Texts
import TokenGovernance.Proofs.Keyed

/-! # Reloading snapshots

The records of a snapshot stand under the digits of their addresses. These are read back as the addresses that they
spell, so that no record is lost and no two are merged. A part that is left out is read as an empty one.
-/

namespace TokenGovernance

open Outcome Json LawfulWire

instance : LawfulWire Multisig where
  depth := 2
  fits _ := .object <| fits_cons (by decide) <| fits_cons (by decide) <| fits_cons (by decide) <|
    fits_cons (by decide) <| List.forall_mem_nil _
  decoder_eq h :=
    Record.Reads.decoder_eq ((((Record.Reads.field rfl).map.seq (.field rfl)).seq (.field rfl)).seq (.field rfl))
      (by simp) h

namespace Json.Record

/-! ## Members that may be left out -/

variable {α β : Type} {src : Source} {fields : List Field} {nodes : List (String × Node)} {name other : String}
  {node : Node} {parts : Members}

theorem lookup_eq_none {γ : Type} {entries : List (String × γ)} (h : name ∉ entries.map (·.1)) :
    entries.lookup name = none := by
  refine List.lookup_eq_none_iff.mpr fun entry hentry => ?_
  rw [bne_iff_ne]
  rintro rfl
  exact h (List.mem_map_of_mem hentry)

theorem fromMembers_congr {seen seen' : List String} (h : ∀ entry ∈ parts.entries, entry.1 ∈ seen' ↔ entry.1 ∈ seen) :
    fromMembers src fields seen' parts = fromMembers src fields seen parts := by
  fun_induction fromMembers src fields seen parts generalizing seen' with
  | case1 => rfl
  | case2 => rfl
  | case3 seen key value tail rest ihField ihNone =>
    rw [fromMembers]
    cases hname : key.text with
    | error fault => rfl
    | ok name =>
      rw [Members.entries, hname] at h
      obtain ⟨hhead, hrest⟩ := List.forall_mem_cons.mp h
      rw [ok_bind, ok_bind]
      cases hfield : fields.find? (·.name == name) with
      | none =>
        dsimp only
        rw [ihNone hrest]
      | some f =>
        -- Of the names seen before, only those matter that come again.
        have hmore : ∀ entry ∈ rest.entries, entry.1 ∈ name :: seen' ↔ entry.1 ∈ name :: seen := by
          intro entry hentry
          rw [List.mem_cons, List.mem_cons, hrest entry hentry]
        dsimp only at hhead ⊢
        rw [ihField name hmore]
        simp only [hhead]

/-- A record that is built alike with a node for a name and with none. -/
def Spares (r : Record α) (src : Source) (name : String) (node : Node) : Prop :=
  ∀ nodes, find nodes name = none → r.build src (find ((name, node) :: nodes)) = r.build src (find nodes)

theorem Spares.fieldDefault {d : Decoder α} {value : α} (hd : d src node = .ok value) :
    (fieldDefault name d value).Spares src name node := by
  intro nodes hnew
  have hfind : find ((name, node) :: nodes) name = some node := List.lookup_cons_self
  unfold Record.fieldDefault fieldOr
  dsimp only
  rw [hfind, hnew]
  exact hd

theorem Spares.fieldDefault_of_ne {d : Decoder α} {value : α} (h : name ≠ other) :
    (Record.fieldDefault name d value).Spares src other node := by
  intro nodes _
  have hfind : find ((other, node) :: nodes) name = find nodes name := lookup_cons_of_ne h
  unfold Record.fieldDefault fieldOr
  dsimp only
  rw [hfind]

theorem Spares.map {f : α → β} {r : Record α} (h : r.Spares src name node) : (f <$> r).Spares src name node :=
  fun nodes hnew => congrArg (Except.map f) (h nodes hnew)

theorem Spares.seq {f : Record (α → β)} {x : Record α} (hf : f.Spares src name node) (hx : x.Spares src name node) :
    (f <*> x).Spares src name node := by
  intro nodes hnew
  change (f.build src _ >>= fun g => x.build src _ >>= fun a => pure (g a)) = _
  rw [hf nodes hnew, hx nodes hnew]
  rfl

theorem decoder_member {r : Record α} {f : Field} {kind : String} (start depth stop leave : Nat) (tail : Tail)
    (hfield : r.fields.find? (·.name == name) = some f) (hcheck : f.check src node = .ok ())
    (hnew : name ∉ parts.entries.map (·.1)) (hspares : r.Spares src name node) :
    r.decoder kind src (.object start depth (.member ⟨.ok name, stop, leave⟩ node tail parts)) =
      r.decoder kind src (.object start depth parts) := by
  -- The name does not come again, so that it makes no difference that it was seen.
  have hseen : fromMembers src r.fields [name] parts = fromMembers src r.fields [] parts := by
    refine fromMembers_congr fun entry hentry => ?_
    rw [List.mem_singleton]
    refine iff_of_false ?_ List.not_mem_nil
    rintro rfl
    exact hnew (List.mem_map_of_mem hentry)
  unfold decoder
  dsimp only
  rw [fromMembers, ok_bind, hfield]
  dsimp only
  rw [if_neg List.not_mem_nil, hcheck, hseen]
  cases hread : fromMembers src r.fields [] parts with
  | error fault => rfl
  | ok found =>
    obtain ⟨nodes, stop⟩ := found
    have hnone : find nodes name = none := by
      have hname : f.name = name := beq_iff_eq.mp (List.find?_eq_some_iff_append.mp hfield).1
      rw [find_of_fromMembers hread (List.mem_map.mpr ⟨f, List.mem_of_find?_eq_some hfield, hname⟩)]
      exact lookup_eq_none hnew
    change placed _ (r.build src (find ((name, node) :: nodes))) = placed _ (r.build src (find nodes))
    rw [hspares nodes hnone]

end Json.Record

namespace Snapshot

variable {s : Snapshot} {src : Source} {node : Node} {members : List (String × Json)}

/-! ## Tables of records -/

/-- The records of a snapshot under the digits of their addresses. -/
def table (s : Snapshot) : List (String × Json) :=
  s.records.map fun (a, m) => (a.toHex, toJson m)

theorem entries_eq {parts : Members} (h : parts.Denotes s.table) :
    Decoder.entries src (fun text => (Address.ofHex text).mapError Refusal.message) Wire.decoder parts =
      .ok s.records := by
  refine entries_eq_of_forall₂ (List.forall₂_map_left_iff.mpr (List.forall₂_same.mpr ?_)) h
  rintro ⟨a, m⟩ -
  refine ⟨?_, fun node hnode => decoder_eq hnode⟩
  rw [a.ofHex_toHex]
  rfl

/-- Reads a table of records. -/
def recordsDecoder : Decoder (List (Address × Multisig)) :=
  (Decoder.table (fun text => (Address.ofHex text).mapError Refusal.message) Wire.decoder).map Keyed.ofList

/-- Reads what may be told of a snapshot. -/
def record : Record Snapshot :=
  mk <$> Record.fieldDefault "accounts" Wire.decoder [] <*> Record.fieldDefault "multisig" recordsDecoder []

theorem decoder_eq_record : (Wire.decoder : Decoder Snapshot) = record.decoder "struct Snapshot" := rfl

theorem records_eq (h : node.Denotes (.object s.table)) (hrecords : Keyed.Increasing s.records) :
    recordsDecoder src node = .ok s.records := by
  cases h with
  | object start hdepth hparts =>
    unfold recordsDecoder Decoder.map Decoder.table
    dsimp only
    rw [entries_eq hparts]
    exact congrArg Except.ok (Keyed.ofList_of_increasing hrecords)

theorem fits_toJson (s : Snapshot) : (toJson s).Fits 4 := by
  have haccounts : (toJson s.accounts).Fits 3 := (fits s.accounts).mono (by decide)
  have htable : (Json.object s.table).Fits 3 := by
    refine .object (List.forall_mem_map.mpr ?_)
    rintro ⟨a, m⟩ -
    exact fits m
  exact .object (List.forall_mem_cons.mpr ⟨haccounts, List.forall_mem_singleton.mpr htable⟩)

/-! ## Snapshots -/

/-- Members that tell what is in a snapshot, in any order and with others between them. What is empty may be left
out. -/
structure Told (s : Snapshot) (members : List (String × Json)) : Prop where
  distinct : (members.map (·.1)).Nodup
  accounts : Record.Holds members "accounts" (toJson s.accounts) (s.accounts = [])
  records : Record.Holds members "multisig" (.object s.table) (s.records = [])

theorem exists_told (s : Snapshot) : ∃ members, toJson s = .object members ∧ s.Told members :=
  ⟨[("accounts", toJson s.accounts), ("multisig", .object s.table)], rfl, by simp, .inl rfl, .inl rfl⟩

theorem Told.decoder_eq (h : s.Told members) (hrecords : Keyed.Increasing s.records)
    (hnode : node.Denotes (.object members)) : (Wire.decoder : Decoder Snapshot) src node = .ok s := by
  have hreads : record.Reads members s :=
    (Record.Reads.fieldDefault (fun _ _ hnode => LawfulWire.decoder_eq hnode) h.accounts).map.seq
      (.fieldDefault (fun _ _ hnode => records_eq hnode hrecords) h.records)
  rw [decoder_eq_record]
  exact hreads.decoder_eq h.distinct hnode

theorem increasing_of_decoder (h : (Wire.decoder : Decoder Snapshot) src node = .ok s) :
    Keyed.Increasing s.records := by
  obtain ⟨find, -, hbuild⟩ := Record.exists_build h
  simp only [Record.build_seq_eq_ok, Record.build_map_eq_ok] at hbuild
  obtain ⟨_, ⟨_, -, rfl⟩, records, hrecords, rfl⟩ := hbuild
  exact Record.increasing_of_build hrecords

/-! ## Parts left out -/

/-- An object without a member of a name is read like one that has it, with a value for it, in front. -/
def ReadsAbsentAs (name : String) (j : Json) : Prop :=
  ∀ (src : Source) (start depth stop leave : Nat) (tail : Tail) (node : Node) (parts : Members),
    node.Denotes j → name ∉ parts.entries.map (·.1) →
      (Wire.decoder : Decoder Snapshot) src (.object start depth parts) =
        (Wire.decoder : Decoder Snapshot) src (.object start depth (.member ⟨.ok name, stop, leave⟩ node tail parts))

theorem readsAbsentAs {name : String} {j : Json} {f : Field} (hfield : record.fields.find? (·.name == name) = some f)
    (h : ∀ src node, node.Denotes j → f.check src node = .ok () ∧ record.Spares src name node) :
    ReadsAbsentAs name j := by
  intro src start depth stop leave tail node parts hnode hnew
  obtain ⟨hcheck, hspares⟩ := h src node hnode
  rw [decoder_eq_record]
  exact (Record.decoder_member start depth stop leave tail hfield hcheck hnew hspares).symm

theorem readsAbsentAs_accounts : ReadsAbsentAs "accounts" (.array []) := by
  refine readsAbsentAs rfl fun src node hnode => ?_
  have hread : (Wire.decoder : Decoder (List Address)) src node = .ok [] := decoder_eq (a := []) hnode
  exact ⟨congrArg (Except.map fun _ => ()) hread,
    (Record.Spares.fieldDefault hread).map.seq (.fieldDefault_of_ne (by decide))⟩

theorem readsAbsentAs_records : ReadsAbsentAs "multisig" (.object []) := by
  refine readsAbsentAs rfl fun src node hnode => ?_
  have hread : recordsDecoder src node = .ok [] := records_eq (s := empty) hnode .nil
  exact ⟨congrArg (Except.map fun _ => ()) hread,
    (Record.Spares.fieldDefault_of_ne (by decide)).map.seq (.fieldDefault hread)⟩

theorem eq_nil_of_decoder {start depth : Nat} {parts : Members}
    (h : (Wire.decoder : Decoder Snapshot) src (.object start depth parts) = .ok s) :
    ("accounts" ∉ parts.entries.map (·.1) → s.accounts = []) ∧
      ("multisig" ∉ parts.entries.map (·.1) → s.records = []) := by
  obtain ⟨find, hfind, hbuild⟩ := Record.exists_build_lookup h
  simp only [Record.build_seq_eq_ok, Record.build_map_eq_ok] at hbuild
  obtain ⟨_, ⟨accounts, haccounts, rfl⟩, records, hrecords, rfl⟩ := hbuild
  constructor
  · intro hnew
    have hnone : find "accounts" = none := (hfind "accounts" (by decide)).trans (Record.lookup_eq_none hnew)
    exact Record.eq_of_build_fieldDefault haccounts hnone
  · intro hnew
    have hnone : find "multisig" = none := (hfind "multisig" (by decide)).trans (Record.lookup_eq_none hnew)
    exact Record.eq_of_build_fieldDefault hrecords hnone

/-! ## Files -/

theorem load_eq_ok {path text : String} : load path (.ok text) = .ok s ↔ decodeText Wire.decoder text = .ok s :=
  mapError_eq_ok

theorem load_eq_error {path text : String} {fault : LedgerFault} : load path (.ok text) = .error fault ↔
    ∃ f, decodeText (Wire.decoder : Decoder Snapshot) text = .error f ∧
      fault = .malformed ("snapshot json: " ++ f.message text) := by
  unfold load
  dsimp only
  cases decodeText (Wire.decoder : Decoder Snapshot) text with
  | ok s => exact iff_of_false nofun (by simp)
  | error f =>
    change Except.error _ = Except.error _ ↔ _
    simp [eq_comm]

theorem increasing_of_load {path : String} {content : Except String String} (h : load path content = .ok s) :
    Keyed.Increasing s.records := by
  cases content with
  | error reason => cases h
  | ok text =>
    obtain ⟨s', hread, hend⟩ := bind_eq_ok.mp (load_eq_ok.mp h)
    split at hend
    · obtain rfl := Except.ok.inj hend
      exact increasing_of_decoder hread
    · cases hend

theorem Told.load_eq (h : s.Told members) (hrecords : Keyed.Increasing s.records) {path text : String}
    (htext : (Json.object members).WrittenAs text) : load path (.ok text) = .ok s :=
  load_eq_ok.mpr (htext.decodeText_eq fun _ hnode => h.decoder_eq hrecords hnode)

end Snapshot
end TokenGovernance
