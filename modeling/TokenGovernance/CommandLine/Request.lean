import TokenGovernance.Command.Basic
import TokenGovernance.Ledger.Snapshot

/-! # Requests

A command with all that it needs, as one JSON object.
-/

namespace TokenGovernance.CommandLine

structure Request where
  command : String
  revision : Option UInt32
  network : NetworkSettings
  actor : PublicKey
  target : PublicKey
  arguments : List (String × Json)
  ledger : Option Snapshot
  deadlineHours : Option Int64

/-- Reads a request. Whatever has a value of its own may be left out. -/
def Request.decoder : Json.Decoder Request :=
  (Request.mk <$> Json.Record.field "command" Wire.decoder
    <*> Json.Record.fieldDefault "revision" Wire.decoder none
    <*> Json.Record.fieldDefault "network" Wire.decoder (.ofNetwork .testnet)
    <*> Json.Record.field "actor" Wire.decoder
    <*> Json.Record.field "target" Wire.decoder
    <*> Json.Record.fieldDefault "arguments" ((Json.Decoder.table .ok .any).map Keyed.ofList) []
    <*> Json.Record.fieldDefault "ledger" Wire.decoder none
    <*> Json.Record.fieldDefault "deadline_hours" Wire.decoder none).decoder "struct Request"

end TokenGovernance.CommandLine
