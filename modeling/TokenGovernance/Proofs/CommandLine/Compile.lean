import TokenGovernance.Proofs.Command.Subject
import TokenGovernance.Proofs.CommandLine.Output
import TokenGovernance.Proofs.CommandLine.Words
import TokenGovernance.Proofs.Context.Register
import TokenGovernance.Proofs.Json.Record
import TokenGovernance.Proofs.Json.Texts
import TokenGovernance.Proofs.Token.Name

/-! # Compiling on the command line

What is written for a request is what the library makes of it: the transactions, or the message of the refusal.
-/

namespace TokenGovernance

open Outcome Json

/-! ## The library -/

theorem Command.name_of_ofName {name : String} {c : Command} (h : ofName name = .ok c) : c.name = name := by
  unfold ofName at h
  split at h
  next hfind =>
    obtain rfl := Except.ok.inj h
    exact beq_iff_eq.mp (List.find?_some hfind :)
  next => cases h

theorem Command.length_le_of_execute {c : Command} {i : Invocation} {ledger : LedgerReader}
    {transactions : List InnerTransaction} (h : c.execute i ledger = .ok transactions) :
    transactions.length ≤ 34 := by
  cases c with
  | createToken =>
    obtain ⟨a, hreads⟩ := CreateToken.reads_of_execute h
    obtain ⟨approvals, -, hexecute⟩ := CreateToken.execute_of_reads hreads
    obtain rfl := Except.ok.inj ((hexecute ledger).symm.trans h)
    obtain ⟨-, -, hsegments, -⟩ := TokenName.segments_eq_ok.mp hreads.segments
    have hoperators := hreads.accepted.le_max
    -- Three segments, a supply, and a flag for each of 25 operators.
    rw [CreateToken.length_issuance]
    split <;> omega
  | addOperator =>
    obtain ⟨a, approval, removal, -, rfl⟩ := OperatorChange.Kind.exists_emission_of_execute (k := .add) h
    exact (by decide : 3 ≤ 34)
  | removeOperator =>
    obtain ⟨a, approval, removal, -, rfl⟩ := OperatorChange.Kind.exists_emission_of_execute (k := .remove) h
    exact (by decide : 3 ≤ 34)

namespace CommandLine

variable {s : Surroundings} {words : List String} {o : Options} {r : Request} {ledger : Snapshot}
  {deadline : Deadline} {fee : UInt64} {transactions : List InnerTransaction} {refusal : Refusal}

/-- The context of a request, and the account that it governs. -/
def Request.given (r : Request) (deadline : Deadline) (fee : UInt64) : Invocation where
  context := {
    revision := r.revision.getD 1
    network := r.network
    actor := ⟨r.actor, r.network.network⟩
    parameters := ⟨deadline, fee, 100⟩
    arguments := r.arguments }
  target := ⟨r.target, r.network.network⟩

/-- What the library makes of a request, given a deadline, a fee and the ledger. -/
def Request.result (r : Request) (deadline : Deadline) (fee : UInt64) (ledger : Snapshot) :
    Except Refusal (List InnerTransaction) := do
  let command ← Command.ofName r.command
  command.execute (r.given deadline fee) ledger.reader

/-! ## The arguments of a request -/

theorem Request.increasing_of_decoder {src : Source} {node : Node} (h : decoder src node = .ok r) :
    Keyed.Increasing r.arguments := by
  obtain ⟨find, -, hbuild⟩ := Record.exists_build h
  simp only [Record.build_seq_eq_ok, Record.build_map_eq_ok] at hbuild
  -- Of the eight members only the arguments matter, which are the third from the end.
  obtain ⟨_, ⟨_, ⟨_, ⟨_, ⟨_, ⟨_, ⟨_, ⟨_, -, rfl⟩, _, -, rfl⟩, _, -, rfl⟩, _, -, rfl⟩, _, -, rfl⟩,
    arguments, harguments, rfl⟩, _, -, rfl⟩, _, -, rfl⟩ := hbuild
  exact Record.increasing_of_build harguments

theorem Request.increasing_of_decodeText {text : String} (h : decodeText decoder text = .ok r) :
    Keyed.Increasing r.arguments := by
  obtain ⟨r', hdecoder, hend⟩ := bind_eq_ok.mp h
  split at hend
  · obtain rfl := Except.ok.inj hend
    exact increasing_of_decoder hdecoder
  · cases hend

theorem Request.setAll_arguments (h : Keyed.Increasing r.arguments) (parameters : Parameters) :
    (r.invocation parameters).context.setAll r.arguments =
      .ok { (r.invocation parameters).context with arguments := r.arguments } := by
  refine Context.setAll_eq_ok.mpr ⟨⟨h.nodup, fun _ _ => rfl⟩, ?_⟩
  change _ = Context.mk _ _ _ _ (Keyed.ofList r.arguments)
  rw [Keyed.ofList_of_increasing h]

theorem Request.compile_eq (h : Keyed.Increasing r.arguments) :
    r.compile ⟨deadline, fee, 100⟩ ledger.reader = do
      let command ← Command.ofName r.command
      let transactions ← command.execute (r.given deadline fee) ledger.reader
      return ⟨command, transactions⟩ := by
  unfold compile
  dsimp only
  rw [r.setAll_arguments h]
  rfl

theorem Request.exists_compile_of_result (h : Keyed.Increasing r.arguments)
    (hresult : r.result deadline fee ledger = .ok transactions) : ∃ c : Command, c.name = r.command ∧
      transactions.length ≤ 34 ∧ r.compile ⟨deadline, fee, 100⟩ ledger.reader = .ok ⟨c, transactions⟩ := by
  obtain ⟨c, hname, hexecute⟩ := bind_eq_ok.mp hresult
  refine ⟨c, Command.name_of_ofName hname, Command.length_le_of_execute hexecute, ?_⟩
  rw [compile_eq h, hname, ok_bind, hexecute]
  rfl

theorem Request.compile_of_result_error (h : Keyed.Increasing r.arguments)
    (hresult : r.result deadline fee ledger = .error refusal) :
    r.compile ⟨deadline, fee, 100⟩ ledger.reader = .error refusal := by
  rw [compile_eq h]
  rcases bind_eq_error.mp hresult with hname | ⟨c, hname, hexecute⟩
  · rw [hname, error_bind]
  · rw [hname, ok_bind, hexecute, error_bind]

/-! ## Deadlines -/

/-- The hours from now to the deadline of a request. -/
def Request.hours (r : Request) : Int64 :=
  r.deadlineHours.getD Deadline.defaultHours

theorem parameters?_eq {now : Int} :
    parameters? now o r = (Deadline.inHours? now Deadline.defaultHours).bind fun _ =>
      (Deadline.inHours? now r.hours).map fun deadline => ⟨deadline, o.maxFee.getD 0, 100⟩ := by
  unfold parameters? Request.hours
  cases hdefault : Deadline.inHours? now Deadline.defaultHours with
  | none => rfl
  | some byDefault =>
    cases r.deadlineHours with
    | none =>
      rw [Option.getD_none, hdefault]
      rfl
    | some hours =>
      rw [Option.getD_some]
      dsimp only
      cases Deadline.inHours? now hours with
      | none => rfl
      | some deadline => rfl

/-! ## Runs that compile -/

/-- What a run that compiles is given: the request that it reads, and the ledger that goes with it. -/
structure Compiles (s : Surroundings) (o : Options) (r : Request) (ledger : Snapshot) : Prop where
  command : o.command = some "compile"
  help : o.help = false
  version : o.version = false
  request : ∃ source text, o.request = some source ∧ requestText s source = .ok text ∧
    decodeText Request.decoder text = .ok r
  ledger : match o.snapshot with
    | some path => Snapshot.load path (s.file path) = .ok ledger
    | none => ledger = r.ledger.getD .empty

theorem readRequest_eq_ok : readRequest s o = .ok r ↔ ∃ source text, o.request = some source ∧
    requestText s source = .ok text ∧ decodeText Request.decoder text = .ok r := by
  unfold readRequest
  cases o.request with
  | none => simp
  | some source => simp [bind_eq_ok, mapError_eq_ok]

theorem readLedger_eq_ok : readLedger s o r = .ok ledger ↔
    match o.snapshot with
    | some path => Snapshot.load path (s.file path) = .ok ledger
    | none => ledger = r.ledger.getD .empty := by
  unfold readLedger
  cases o.snapshot with
  | none => simp [eq_comm]
  | some path => exact mapError_eq_ok

theorem compile_of_readRequest (h : readRequest s o = .ok r) :
    compile s o = (readLedger s o r).mapError .fault >>= fun ledger =>
      match parameters? s.now o r with
      | none => .error .outsideCalendar
      | some parameters => (r.compile parameters ledger.reader).mapError fun refusal => .fault (.refused refusal) := by
  unfold compile
  rw [h]
  rfl

theorem compile_of_read (hrequest : readRequest s o = .ok r) (hledger : readLedger s o r = .ok ledger) :
    compile s o = match parameters? s.now o r with
      | none => .error .outsideCalendar
      | some parameters => (r.compile parameters ledger.reader).mapError fun refusal => .fault (.refused refusal) := by
  rw [compile_of_readRequest hrequest, hledger]
  rfl

theorem Compiles.compile_eq (h : Compiles s o r ledger) :
    compile s o = match parameters? s.now o r with
      | none => .error .outsideCalendar
      | some parameters => (r.compile parameters ledger.reader).mapError fun refusal => .fault (.refused refusal) :=
  compile_of_read (readRequest_eq_ok.mpr h.request) (readLedger_eq_ok.mpr h.ledger)

theorem run_of_compile (hread : Options.read words = .ok o) (hhelp : o.help = false) (hversion : o.version = false)
    (hcommand : o.command = some "compile") :
    run s words = match compile s o with
      | .ok c => .written (render (o.pretty || s.terminal) c.toJson)
      | .error (.fault f) => .failed (o.pretty || s.terminal) f
      | .error .outsideCalendar => .aborted := by
  unfold run perform
  rw [hread]
  dsimp only
  rw [hhelp, hversion, hcommand, if_neg Bool.false_ne_true, if_neg Bool.false_ne_true]
  dsimp only
  rw [if_pos rfl]
  cases compile s o with
  | ok c => rfl
  | error halt =>
    cases halt with
    | fault f => rfl
    | outsideCalendar => rfl

/-- A run that compiles writes what the library makes of the request: a report of the transactions, or else
the message of the refusal and nothing beside it. The fee is the last that the words name. -/
theorem run_compile (hread : Options.read words = .ok o) (h : Compiles s o r ledger)
    (hdefault : (Deadline.inHours? s.now Deadline.defaultHours).isSome)
    (hdeadline : Deadline.inHours? s.now r.hours = some deadline) :
    ∃ phrases, Spelled words phrases ∧ o = .ofPhrases phrases ∧
      match r.result deadline ((phrases.filterMap Phrase.fee?).getLast?.getD 0) ledger with
      | .ok transactions => ∃ output, run s words = .finished 0 output "" ∧
          Reports output r.command transactions
      | .error refusal => ∃ errors, run s words = .finished 1 "" errors ∧ Complains errors refusal.message := by
  obtain ⟨phrases, hspelled, rfl⟩ := Options.read_eq_ok.mp hread
  refine ⟨phrases, hspelled, rfl, ?_⟩
  obtain ⟨source, text, -, -, hdecode⟩ := h.request
  have hincreasing := Request.increasing_of_decodeText hdecode
  have hparameters : parameters? s.now (.ofPhrases phrases) r =
      some ⟨deadline, (phrases.filterMap Phrase.fee?).getLast?.getD 0, 100⟩ := by
    obtain ⟨byDefault, hdefault⟩ := Option.isSome_iff_exists.mp hdefault
    rw [parameters?_eq, hdefault, hdeadline]
    rfl
  rw [run_of_compile hread h.help h.version h.command, h.compile_eq, hparameters]
  dsimp only
  cases hresult : r.result deadline ((phrases.filterMap Phrase.fee?).getLast?.getD 0) ledger with
  | ok transactions =>
    obtain ⟨c, hname, hlength, hcompile⟩ := Request.exists_compile_of_result hincreasing hresult
    rw [hcompile, ← hname]
    exact ⟨_, rfl, reports_render (Nat.lt_of_le_of_lt hlength (by decide)) _⟩
  | error refusal =>
    rw [Request.compile_of_result_error hincreasing hresult]
    exact ⟨_, rfl, complains_render _ _⟩

end CommandLine

/-! ## A sample -/

namespace Sample

open CommandLine

/-- The request of a creation, for a deadline some hours from now. -/
def request (hours : Int64) : Request where
  command := "CreateToken"
  revision := none
  network := .ofNetwork .testnet
  actor := key 1
  target := key 9
  arguments := creation.context.arguments
  ledger := none
  deadlineHours := some hours

def requestMembers (hours : Int64) : List (String × Json) :=
  [("actor", toJson (key 1)), ("arguments", .object creation.context.arguments), ("command", toJson "CreateToken"),
    ("deadline_hours", toJson (some hours)), ("target", toJson (key 9))]

theorem request_fits (hours : Int64) : (Json.object (requestMembers hours)).Fits 3 := by
  have hkey (k : PublicKey) : (toJson k).Fits 2 := (LawfulWire.fits k).mono (by decide)
  have hoperators : (toJson [second, third, fourth]).Fits 1 :=
    LawfulWire.fits [second, third, fourth]
  have harguments : (Json.object creation.context.arguments).Fits 2 := by
    refine .object fun m hm => ?_
    simp only [creation, context, List.mem_cons, List.not_mem_nil, or_false] at hm
    rcases hm with rfl | rfl | rfl | rfl | rfl
    · exact .string 1 _
    · exact .string 1 _
    · exact hoperators
    · exact .string 1 _
    · exact .whole 1 (by decide)
  refine .object fun m hm => ?_
  simp only [requestMembers, List.mem_cons, List.not_mem_nil, or_false] at hm
  rcases hm with rfl | rfl | rfl | rfl | rfl
  · exact hkey _
  · exact harguments
  · exact .string 2 _
  · exact (LawfulWire.fits (some hours)).mono (by decide)
  · exact hkey _

theorem request_decoded (hours : Int64) :
    decodeText Request.decoder (Json.object (requestMembers hours)).compact = .ok (request hours) := by
  refine ((request_fits hours).compact (by decide)).decodeText_eq fun _ h => ?_
  refine Record.Reads.decoder_eq ((((((((Record.Reads.field rfl).map.seq (.absent rfl)).seq (.absent rfl)).seq
    (.field rfl)).seq (.field rfl)).seq (.fieldOr (fun src node hnode => ?_) rfl)).seq (.absent rfl)).seq
      (.fieldOr (fun src node hnode => LawfulWire.decoder_eq hnode) rfl)) (by simp [requestMembers]) h
  rw [Decoder.map, table_eq hnode]
  rfl

/-- A command line that finds a request on its standard input, and no files. -/
def requesting (now : Int) (hours : Int64) : Surroundings where
  file _ := .error "no such file"
  input := .ok (Json.object (requestMembers hours)).compact
  now := now
  terminal := false

/-- What the words ask that name the standard input. -/
def standardInput : Options :=
  { command := some "compile", request := some "-" }

theorem read_standardInput : Options.read ["compile", "-"] = .ok standardInput := rfl

theorem compiles (now : Int) (hours : Int64) :
    Compiles (requesting now hours) standardInput (request hours) .empty where
  command := rfl
  help := rfl
  version := rfl
  request := ⟨_, _, rfl, rfl, request_decoded hours⟩
  ledger := rfl

end Sample

open Sample CommandLine in
/-- Two hours after the start of 1970, a creation that was due then. -/
theorem CommandLine.run_compile_creation : Options.read ["compile", "-"] = .ok standardInput ∧
    Compiles (requesting 7200000 (-2)) standardInput (request (-2)) .empty ∧
    Deadline.inHours? 7200000 (-2) = some ⟨0⟩ ∧
    ∃ transactions output, transactions.length = 11 ∧
      Command.createToken.execute creation Snapshot.empty.reader = .ok transactions ∧
      run (requesting 7200000 (-2)) ["compile", "-"] = .finished 0 output "" ∧
      Reports output "CreateToken" transactions := by
  obtain ⟨approvals, -, hexecute⟩ := CreateToken.execute_of_reads creation_reads
  have hresult : (request (-2)).result ⟨0⟩ 0 .empty = .ok _ := hexecute Snapshot.empty.reader
  have hdeadline : Deadline.inHours? 7200000 (-2) = some ⟨0⟩ := by decide
  obtain ⟨phrases, -, heq, h⟩ :=
    run_compile read_standardInput (compiles 7200000 (-2)) (by decide) hdeadline
  have hfee : (phrases.filterMap Phrase.fee?).getLast? = none := (congrArg Options.maxFee heq).symm
  rw [hfee, Option.getD_none, hresult] at h
  obtain ⟨output, hrun, hreports⟩ := h
  exact ⟨rfl, compiles _ _, hdeadline, _, output, CreateToken.length_issuance _ _ _, hexecute _, hrun, hreports⟩

end TokenGovernance
