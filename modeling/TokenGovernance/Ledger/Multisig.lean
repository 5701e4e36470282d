import TokenGovernance.Identity.Codec

/-! # Multisig records

The cosignatories of an account, and how many of them it takes to act and to remove one of them.
-/

namespace TokenGovernance

structure Multisig where
  account : Address
  cosignatories : List PublicKey
  minApproval : UInt8
  minRemoval : UInt8
  deriving DecidableEq

def Multisig.lists (m : Multisig) (key : PublicKey) : Bool :=
  m.cosignatories.contains key

instance : Wire Multisig where
  toJson m := .object [("account", toJson m.account), ("cosignatories", toJson m.cosignatories),
    ("min_approval", toJson m.minApproval), ("min_removal", toJson m.minRemoval)]
  decoder :=
    (Multisig.mk <$> Json.Record.field "account" Wire.decoder
      <*> Json.Record.field "cosignatories" Wire.decoder
      <*> Json.Record.field "min_approval" Wire.decoder
      <*> Json.Record.field "min_removal" Wire.decoder).decoder "struct MultisigInfo"

end TokenGovernance
