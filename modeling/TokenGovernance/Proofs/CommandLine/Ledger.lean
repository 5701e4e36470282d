import TokenGovernance.Proofs.CommandLine.Compile
import TokenGovernance.Proofs.Ledger.Codec
import TokenGovernance.Proofs.Ledger.History

/-! # Ledgers of runs

A run has its ledger from the file that it names, or from its request. Either way it is the snapshot that was written
there, so that the same transactions are compiled, or the same refusal is given, as against the snapshot itself.
-/

namespace TokenGovernance

open Outcome Json LawfulWire

instance : LawfulWire NetworkSettings where
  depth := 1
  fits s := by
    obtain ⟨network, hash, _ | url⟩ := s
    · exact .object <| fits_cons (by decide) <| fits_cons (by decide) <| List.forall_mem_nil _
    · exact .object <| fits_cons (by decide) <| fits_cons (by decide) <| fits_cons (by decide) <| List.forall_mem_nil _
  decoder_eq {s _ _} h := by
    obtain ⟨network, hash, _ | url⟩ := s
    · exact Record.Reads.decoder_eq (((Record.Reads.field rfl).map.seq
        (.fieldOr (fun _ _ hnode => decoder_eq (a := hash) hnode) rfl)).seq (.absent rfl)) (by simp) h
    · exact Record.Reads.decoder_eq (((Record.Reads.field rfl).map.seq
        (.fieldOr (fun _ _ hnode => decoder_eq (a := hash) hnode) rfl)).seq
          (.fieldOr (fun _ _ hnode => decoder_eq (a := some url) hnode) rfl)) (by simp) h

namespace CommandLine

variable {s s' : Snapshot} {src : Source} {node : Node} {members : List (String × Json)} {r : Request}
  {w : Surroundings} {o : Options}

/-! ## Requests -/

/-- Members that tell what is in a request, in any order and with others between them. What has a value of its own may
be left out. -/
structure Request.Told (r : Request) (members : List (String × Json)) : Prop where
  distinct : (members.map (·.1)).Nodup
  command : members.lookup "command" = some (toJson r.command)
  revision : Record.Holds members "revision" (toJson r.revision) (r.revision = none)
  network : Record.Holds members "network" (toJson r.network) (r.network = .ofNetwork .testnet)
  actor : members.lookup "actor" = some (toJson r.actor)
  target : members.lookup "target" = some (toJson r.target)
  arguments : ∃ given, Record.Holds members "arguments" (.object given) (r.arguments = []) ∧
    r.arguments = Keyed.ofList (normalMembers given)
  ledger : Record.Holds members "ledger" (toJson r.ledger) (r.ledger = none)
  deadline : Record.Holds members "deadline_hours" (toJson r.deadlineHours) (r.deadlineHours = none)

theorem ledger_eq (htold : s.Told members) (hrecords : Keyed.Increasing s.records)
    (h : node.Denotes (.object members)) : (Wire.decoder : Decoder (Option Snapshot)) src node = .ok (some s) := by
  have hne : Json.object members ≠ .null := nofun
  exact optional_eq hne h (htold.decoder_eq hrecords h)

theorem optional_ledger_eq {ledger : Option Snapshot} (hrecords : ∀ s ∈ ledger, Keyed.Increasing s.records)
    (h : node.Denotes (toJson ledger)) : (Wire.decoder : Decoder (Option Snapshot)) src node = .ok ledger := by
  cases ledger with
  | none =>
    cases h
    rfl
  | some s =>
    obtain ⟨members, hjson, htold⟩ := s.exists_told
    have hnode : node.Denotes (.object members) := hjson ▸ h
    exact ledger_eq htold (hrecords s rfl) hnode

theorem Request.Told.decoder_eq (h : r.Told members) (hrecords : ∀ s ∈ r.ledger, Keyed.Increasing s.records)
    (hnode : node.Denotes (.object members)) : Request.decoder src node = .ok r := by
  obtain ⟨given, hgiven, harguments⟩ := h.arguments
  have hread : ∀ src node, node.Denotes (.object given) →
      ((Decoder.table .ok .any).map Keyed.ofList) src node = .ok r.arguments := by
    intro src node hnode
    rw [Decoder.map, table_eq hnode, harguments]
    rfl
  exact Record.Reads.decoder_eq ((((((((Record.Reads.field h.command).map.seq
    (.fieldDefault (fun _ _ hnode => LawfulWire.decoder_eq hnode) h.revision)).seq
    (.fieldDefault (fun _ _ hnode => LawfulWire.decoder_eq hnode) h.network)).seq
    (.field h.actor)).seq (.field h.target)).seq (.fieldDefault hread hgiven)).seq
    (.fieldDefault (fun _ _ hnode => optional_ledger_eq hrecords hnode) h.ledger)).seq
    (.fieldDefault (fun _ _ hnode => LawfulWire.decoder_eq hnode) h.deadline)) h.distinct hnode

theorem Request.ledger_of_decoder {start depth : Nat} {parts : Members} {part : Node} (htold : s.Told members)
    (hrecords : Keyed.Increasing s.records) (hfound : parts.entries.lookup "ledger" = some part)
    (hpart : part.Denotes (.object members)) (h : Request.decoder src (.object start depth parts) = .ok r) :
    r.ledger = some s := by
  obtain ⟨find, hfind, hbuild⟩ := Record.exists_build_lookup h
  have hledger : find "ledger" = some part := (hfind "ledger" (by decide)).trans hfound
  simp only [Record.build_seq_eq_ok, Record.build_map_eq_ok] at hbuild
  -- Of the eight members only the ledger matters, which is the last but one.
  obtain ⟨_, ⟨_, ⟨_, ⟨_, ⟨_, ⟨_, ⟨_, ⟨_, -, rfl⟩, _, -, rfl⟩, _, -, rfl⟩, _, -, rfl⟩, _, -, rfl⟩, _, -, rfl⟩,
    ledger, hread, rfl⟩, _, -, rfl⟩ := hbuild
  change ledger = some s
  rcases Record.build_fieldOr_eq_ok.mp hread with ⟨hnone, -⟩ | ⟨node, hnode, hread⟩
  · cases hledger.symm.trans hnone
  · obtain rfl := Option.some.inj (hledger.symm.trans hnode)
    exact Except.ok.inj (hread.symm.trans (ledger_eq htold hrecords hpart))

/-! ## Runs -/

/-- What a snapshot is read back as, from a file or as the ledger of a request. -/
inductive Reread (s s' : Snapshot) : Prop
  | file {path text : String} {members : List (String × Json)} (htold : s.Told members)
      (htext : (Json.object members).WrittenAs text) (hload : Snapshot.load path (.ok text) = .ok s')
  | request {src : Source} {start depth : Nat} {parts : Members} {part : Node} {members : List (String × Json)}
      {r : Request} (htold : s.Told members) (hfound : parts.entries.lookup "ledger" = some part)
      (hpart : part.Denotes (.object members))
      (hread : Request.decoder src (.object start depth parts) = .ok r) (hledger : r.ledger = some s')

theorem Reread.eq (h : Reread s s') (hrecords : Keyed.Increasing s.records) : s' = s := by
  cases h with
  | file htold htext hload => exact Except.ok.inj (hload.symm.trans (htold.load_eq hrecords htext))
  | request htold hfound hpart hread hledger =>
    exact Option.some.inj (hledger.symm.trans (Request.ledger_of_decoder htold hrecords hfound hpart hread))

/-- A run is given a snapshot by the file that it names, or by its request if it names none. -/
inductive Supplies (w : Surroundings) (o : Options) (r : Request) (s : Snapshot) : Prop
  | file {path text : String} {members : List (String × Json)} (hpath : o.snapshot = some path)
      (hfile : w.file path = .ok text) (htold : s.Told members) (htext : (Json.object members).WrittenAs text)
  | request (hpath : o.snapshot = none) (hledger : r.ledger = some s)

theorem Supplies.readLedger_eq (h : Supplies w o r s) (hrecords : Keyed.Increasing s.records) :
    readLedger w o r = .ok s := by
  rw [readLedger_eq_ok]
  cases h with
  | file hpath hfile htold htext =>
    rw [hpath]
    dsimp only
    rw [hfile]
    exact htold.load_eq hrecords htext
  | request hpath hledger =>
    rw [hpath, hledger]
    rfl

theorem compile_of_malformed {path text : String} {f : Json.Fault} (hrequest : readRequest w o = .ok r)
    (hpath : o.snapshot = some path) (hfile : w.file path = .ok text)
    (hdecode : decodeText (Wire.decoder : Decoder Snapshot) text = .error f) :
    compile w o = .error (.fault (.ledger (.malformed ("snapshot json: " ++ f.message text)))) := by
  have hledger : readLedger w o r = .error (.ledger (.malformed ("snapshot json: " ++ f.message text))) := by
    unfold readLedger
    rw [hpath]
    dsimp only
    rw [hfile, Snapshot.load_eq_error.mpr ⟨f, hdecode, rfl⟩]
    rfl
  rw [compile_of_readRequest hrequest, hledger]
  rfl

/-- What becomes of a snapshot that is written down: it is loaded from its form, printed either way, and from whatever
tells what is in it, it is the ledger of each request that holds it, and no command tells the difference. -/
structure Survives (s : Snapshot) : Prop where
  reloads : Wire.Reloads s
  loads (path : String) : Snapshot.load path (.ok (toJson s).compact) = .ok s ∧
    Snapshot.load path (.ok (toJson s).indented) = .ok s
  form : ∃ members, toJson s = .object members ∧ s.Told members
  told {members : List (String × Json)} {text : String} (path : String) : s.Told members →
    (Json.object members).WrittenAs text → Snapshot.load path (.ok text) = .ok s
  requests {r : Request} {members : List (String × Json)} {text : String} : r.ledger = some s → r.Told members →
    (Json.object members).WrittenAs text → decodeText Request.decoder text = .ok r
  embeds {src : Source} {start depth : Nat} {parts : Members} {part : Node} {members : List (String × Json)}
    {r : Request} : s.Told members → parts.entries.lookup "ledger" = some part → part.Denotes (.object members) →
      Request.decoder src (.object start depth parts) = .ok r → r.ledger = some s
  executes {s' : Snapshot} (c : Command) (i : Invocation) : Reread s s' →
    c.execute i s'.reader = c.execute i s.reader
  compiles {w : Surroundings} {o : Options} {r : Request} : readRequest w o = .ok r → Supplies w o r s →
    compile w o = match parameters? w.now o r with
      | none => .error .outsideCalendar
      | some parameters => (r.compile parameters s.reader).mapError fun refusal => .fault (.refused refusal)

theorem survives (h : Keyed.Increasing s.records) : Survives s where
  reloads := by
    obtain ⟨members, hjson, htold⟩ := s.exists_told
    have hread (src : Source) (node : Node) (hnode : node.Denotes (toJson s)) :
        (Wire.decoder : Decoder Snapshot) src node = .ok s := by
      rw [hjson] at hnode
      exact htold.decoder_eq h hnode
    exact {
      value := hread _ _ (denotes_toNode _)
      compact := (s.fits_toJson.compact (by decide)).decodeText_eq (hread _)
      indented := (s.fits_toJson.indented (by decide)).decodeText_eq (hread _) }
  loads path := by
    obtain ⟨members, hjson, htold⟩ := s.exists_told
    have hfits := s.fits_toJson
    rw [hjson] at hfits ⊢
    exact ⟨htold.load_eq h (hfits.compact (by decide)), htold.load_eq h (hfits.indented (by decide))⟩
  form := s.exists_told
  told path htold htext := htold.load_eq h htext
  requests {r _ _} hledger htold htext := by
    have hrecords : ∀ s' ∈ r.ledger, Keyed.Increasing s'.records := by
      intro s' hs'
      obtain rfl := Option.some.inj (hledger.symm.trans hs')
      exact h
    exact htext.decodeText_eq fun _ hnode => htold.decoder_eq hrecords hnode
  embeds htold hfound hpart hread := Request.ledger_of_decoder htold h hfound hpart hread
  executes c i hreread := by rw [hreread.eq h]
  compiles hrequest hsupplies := compile_of_read hrequest (hsupplies.readLedger_eq h)

/-- How ledgers are kept between runs. Snapshots whose records are in order survive, and no others are built or loaded;
what is left out is read as what is empty; and a text that is no snapshot is refused as malformed. -/
structure KeepsLedgers : Prop where
  ordered (s : Snapshot) : Keyed.Increasing s.records → Survives s
  built (reports : List Snapshot.Report) : Survives (.ofReports reports)
  loaded {path : String} {content : Except String String} {s : Snapshot} :
    Snapshot.load path content = .ok s → Survives s
  absent {src : Source} {start depth : Nat} {parts : Members} {s : Snapshot} :
    (Wire.decoder : Decoder Snapshot) src (.object start depth parts) = .ok s →
      ("accounts" ∉ parts.entries.map (·.1) → s.accounts = []) ∧
      ("multisig" ∉ parts.entries.map (·.1) → s.records = [])
  without_accounts : Snapshot.ReadsAbsentAs "accounts" (.array [])
  without_records : Snapshot.ReadsAbsentAs "multisig" (.object [])
  malformed {path text : String} {fault : LedgerFault} : Snapshot.load path (.ok text) = .error fault ↔
    ∃ f, decodeText (Wire.decoder : Decoder Snapshot) text = .error f ∧
      fault = .malformed ("snapshot json: " ++ f.message text)
  refused {w : Surroundings} {o : Options} {r : Request} {path text : String} {f : Json.Fault} :
    readRequest w o = .ok r → o.snapshot = some path → w.file path = .ok text →
      decodeText (Wire.decoder : Decoder Snapshot) text = .error f →
        compile w o = .error (.fault (.ledger (.malformed ("snapshot json: " ++ f.message text))))

/-- Ledgers are the same in a file, in a request and in the hands of a command. -/
theorem keepsLedgers : KeepsLedgers where
  ordered _ := survives
  built reports := survives (Snapshot.increasing_ofReports reports)
  loaded hload := survives (Snapshot.increasing_of_load hload)
  absent := Snapshot.eq_nil_of_decoder
  without_accounts := Snapshot.readsAbsentAs_accounts
  without_records := Snapshot.readsAbsentAs_records
  malformed := Snapshot.load_eq_error
  refused := compile_of_malformed

end CommandLine

/-! ## A sample -/

namespace Sample

/-- A snapshot that lists an account twice, with two records, one of which stands under an address that it does not
name. -/
def books : Snapshot where
  accounts := [target.address, .ofKey (key 5) .mainnet, target.address]
  records := [(.ofKey (key 2) .mainnet, ⟨target.address, [key 3, key 3], 255, 0⟩),
    (target.address, ⟨target.address, [key 2, key 3], 2, 1⟩)]

theorem books_increasing : Keyed.Increasing books.records := by
  have hlt : Address.ofKey (key 2) .mainnet < target.address := List.cons_lt_cons_iff.mpr (.inl (by decide))
  exact List.pairwise_pair.mpr hlt

end Sample

open Sample CommandLine in
/-- The account that was listed twice still is, and each record stands where it stood. -/
theorem CommandLine.survives_books : Keyed.Increasing books.records ∧ Survives books ∧
    Snapshot.load "books.json" (.ok (toJson books).compact) = .ok books := by
  have hsurvives := keepsLedgers.ordered books books_increasing
  exact ⟨books_increasing, hsurvives, (hsurvives.loads "books.json").1⟩

end TokenGovernance
