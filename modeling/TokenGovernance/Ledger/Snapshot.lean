import TokenGovernance.Ledger.Reader

/-! # Snapshots

The state of a ledger, captured ahead of time.
-/

namespace TokenGovernance

/-- The accounts of a ledger that are known to be there, and the multisig records by address. -/
structure Snapshot where
  accounts : List Address
  records : List (Address × Multisig)
  deriving DecidableEq

namespace Snapshot

def empty : Snapshot :=
  ⟨[], []⟩

/-- The snapshot with an account, which is listed once. -/
def withAccount (s : Snapshot) (a : Address) : Snapshot :=
  if a ∈ s.accounts then s else { s with accounts := s.accounts ++ [a] }

/-- The snapshot with a record in place of the one its account had. -/
def withMultisig (s : Snapshot) (m : Multisig) : Snapshot :=
  { s with records := Keyed.insert m.account m s.records }.withAccount m.account

def multisig? (s : Snapshot) (a : Address) : Option Multisig :=
  Keyed.find? a s.records

/-- Whether an account is listed or has a record. -/
def accountExists (s : Snapshot) (a : Address) : Bool :=
  s.accounts.contains a || (s.multisig? a).isSome

def reader (s : Snapshot) : LedgerReader :=
  ⟨fun a => .ok (s.accountExists a), fun a => .ok (s.multisig? a)⟩

end Snapshot

instance : Wire Snapshot where
  toJson s := .object [("accounts", toJson s.accounts),
    ("multisig", .object (s.records.map fun (a, m) => (a.toHex, toJson m)))]
  decoder :=
    (Snapshot.mk <$> Json.Record.fieldDefault "accounts" Wire.decoder []
      <*> Json.Record.fieldDefault "multisig"
        ((Json.Decoder.table (fun s => (Address.ofHex s).mapError Refusal.message) Wire.decoder).map Keyed.ofList)
        []).decoder "struct Snapshot"

namespace Snapshot

/-- The snapshot that a file holds, given the path it was read from and what the reading gave. -/
def load (path : String) (content : Except String String) : Except LedgerFault Snapshot :=
  match content with
  | .error reason => .error (.unavailable ("snapshot read " ++ path ++ ": " ++ reason))
  | .ok text =>
    (Json.decodeText Wire.decoder text).mapError fun fault => .malformed ("snapshot json: " ++ fault.message text)

end Snapshot
end TokenGovernance
