import TokenGovernance.CommandLine.Options
import TokenGovernance.CommandLine.Request
import TokenGovernance.Context.Clock
import TokenGovernance.Json.Printer
import TokenGovernance.Transaction.Codec

/-! # Runs of the command line

What a run of the program writes and how it ends, as a function of its words and of what it can read.
-/

namespace TokenGovernance.CommandLine

/-- What a run can read: files, the standard input, the time in milliseconds since the start of 1970,
and whether a terminal shows the output. -/
structure Surroundings where
  file : String → Except String String
  input : Except String String
  now : Int
  terminal : Bool

/-- Why a run yields no output. -/
inductive Fault
  | options (fault : OptionFault)
  | unknownCommand (name : String)
  | noRequest
  | inputUnreadable (reason : String)
  | fileUnreadable (path reason : String)
  | request (text : String) (fault : Json.Fault)
  | ledger (fault : LedgerFault)
  | refused (refusal : Refusal)

def Fault.message : Fault → String
  | .options fault => fault.message
  | .unknownCommand name => "Unknown command: " ++ name
  | .noRequest => "compile needs a request file or '-'"
  | .inputUnreadable reason => "read stdin: " ++ reason
  | .fileUnreadable path reason => "read " ++ path ++ ": " ++ reason
  | .request text fault => "parse request: " ++ fault.message text
  | .ledger fault => fault.message
  | .refused refusal => refusal.message

/-- How a run ends before its output: with a fault, or with a deadline outside the calendar. -/
inductive Halt
  | fault (f : Fault)
  | outsideCalendar

/-! ## Compiling -/

structure Compiled where
  command : Command
  transactions : List InnerTransaction

def Compiled.toJson (c : Compiled) : Json :=
  .object [("command", .string c.command.name), ("count", .nat c.transactions.length),
    ("standard", .string Limits.standard), ("transactions", Wire.toJson c.transactions)]

def requestText (s : Surroundings) (source : String) : Except Fault String :=
  if source = "-" then s.input.mapError .inputUnreadable
  else (s.file source).mapError (.fileUnreadable source)

def readRequest (s : Surroundings) (o : Options) : Except Fault Request :=
  match o.request with
  | none => .error .noRequest
  | some source => do
    let text ← requestText s source
    (Json.decodeText Request.decoder text).mapError (.request text)

/-- The ledger of a request, which the snapshot that is named replaces. -/
def readLedger (s : Surroundings) (o : Options) (r : Request) : Except Fault Snapshot :=
  match o.snapshot with
  | some path => (Snapshot.load path (s.file path)).mapError .ledger
  | none => .ok (r.ledger.getD .empty)

/-- The parameters of the transactions, nothing if a deadline is outside the calendar. -/
def parameters? (now : Int) (o : Options) (r : Request) : Option Parameters := do
  let byDefault ← Deadline.inHours? now Deadline.defaultHours
  let deadline ← match r.deadlineHours with
    | some hours => Deadline.inHours? now hours
    | none => some byDefault
  return ⟨deadline, o.maxFee.getD 0, Parameters.defaultFeeMultiplier⟩

def Request.invocation (r : Request) (parameters : Parameters) : Invocation :=
  ⟨⟨r.revision.getD Limits.revision, r.network, ⟨r.actor, r.network.network⟩, parameters, []⟩,
    ⟨r.target, r.network.network⟩⟩

def Request.compile (r : Request) (parameters : Parameters) (ledger : LedgerReader) :
    Except Refusal Compiled := do
  let bare := r.invocation parameters
  let context ← bare.context.setAll r.arguments
  let command ← Command.ofName r.command
  let transactions ← command.execute { bare with context } ledger
  return ⟨command, transactions⟩

def compile (s : Surroundings) (o : Options) : Except Halt Compiled := do
  let request ← (readRequest s o).mapError .fault
  let ledger ← (readLedger s o request).mapError .fault
  match parameters? s.now o request with
  | none => throw .outsideCalendar
  | some parameters =>
    (request.compile parameters ledger.reader).mapError fun refusal => .fault (.refused refusal)

/-! ## Output -/

def commandsJson : Json :=
  .object [("commands", .array (Command.all.map fun c =>
      .object [("name", .string c.name), ("options", .array (c.options.map CommandOption.toJson))])),
    ("revision", .nat Limits.revision.toNat), ("standard", .string Limits.standard)]

def usage : String :=
  "nip13 - compile NIP13 token commands into aggregate transaction steps\n\n" ++
    "USAGE:\n" ++
    "    nip13 compile <request.json | -> [--snapshot <file>] [--max-fee <n>] [--pretty]\n" ++
    "    nip13 commands\n\n" ++
    "ENVIRONMENT:\n" ++
    "    RUST_LOG          log filter (default: info)\n" ++
    "    NIP13_LOG_FORMAT  compact | pretty | json (stderr)\n"

def version : String :=
  "nip13 0.1.0\n"

/-- A value on a line, or indented on several. -/
def render (pretty : Bool) (j : Json) : String :=
  (if pretty then j.indented else j.compact) ++ "\n"

/-- How a run ends: with what it wrote, or broken off. -/
inductive Outcome
  | finished (exit : UInt32) (output errors : String)
  | aborted
  deriving DecidableEq, Repr

def Outcome.written (text : String) : Outcome :=
  .finished 0 text ""

def Outcome.failed (pretty : Bool) (f : Fault) : Outcome :=
  .finished 1 "" (render pretty (.object [("error", .string f.message)]))

def perform (s : Surroundings) (o : Options) (command : String) : Except Halt Json :=
  if command = "compile" then (compile s o).map Compiled.toJson
  else if command = "commands" then .ok commandsJson
  else .error (.fault (.unknownCommand command))

def run (s : Surroundings) (words : List String) : Outcome :=
  match Options.read words with
  | .error fault => .failed s.terminal (.options fault)
  | .ok o =>
    if o.help then .written usage
    else if o.version then .written version
    else
      match o.command with
      | none => .written usage
      | some command =>
        let pretty := o.pretty || s.terminal
        match perform s o command with
        | .ok j => .written (render pretty j)
        | .error (.fault f) => .failed pretty f
        | .error .outsideCalendar => .aborted

/-- The files that a run with the words given reads. -/
def filesRead (words : List String) : List String :=
  match Options.read words with
  | .ok o =>
    if o.command = some "compile" ∧ !o.help ∧ !o.version then
      o.request.toList.filter (· ≠ "-") ++ o.snapshot.toList
    else []
  | .error _ => []

/-- Whether a run with the words given reads the standard input. -/
def readsInput (words : List String) : Bool :=
  match Options.read words with
  | .ok o => o.command = some "compile" && !o.help && !o.version && o.request = some "-"
  | .error _ => false

end TokenGovernance.CommandLine
