import TokenGovernance.Identity.Codec

/-! # Networks and parameters of a context -/

namespace TokenGovernance

/-- A network, the hash it began with, and a node to reach it by. -/
structure NetworkSettings where
  network : Network
  generationHash : String
  nodeUrl : Option String
  deriving DecidableEq

/-- The settings of a network with nothing else known. -/
def NetworkSettings.ofNetwork (network : Network) : NetworkSettings :=
  ⟨network, "", none⟩

/-- A point in time, in milliseconds since the start of 1970. -/
structure Deadline where
  millis : Int64
  deriving DecidableEq, Repr

/-- What is copied into every transaction. -/
structure Parameters where
  deadline : Deadline
  maxFee : UInt64
  feeMultiplier : UInt32
  deriving DecidableEq

/-- The fee multiplier of a context that names none. -/
def Parameters.defaultFeeMultiplier : UInt32 := 100

instance : Wire NetworkSettings where
  toJson s := .object <|
    [("generation_hash", toJson s.generationHash), ("network_type", toJson s.network)] ++
      (s.nodeUrl.map fun url => ("node_url", toJson url)).toList
  decoder :=
    (NetworkSettings.mk <$> Json.Record.field "network_type" Wire.decoder
      <*> Json.Record.fieldDefault "generation_hash" Wire.decoder ""
      <*> Json.Record.fieldDefault "node_url" Wire.decoder none).decoder "struct NetworkConfig"

instance : Wire Deadline where
  toJson d := toJson d.millis
  decoder := (Wire.decoder (α := Int64)).map Deadline.mk

instance : Wire Parameters where
  toJson p := .object [("deadline", toJson p.deadline), ("fee_multiplier", toJson p.feeMultiplier),
    ("max_fee", toJson p.maxFee)]
  decoder :=
    (Parameters.mk <$> Json.Record.field "deadline" Wire.decoder
      <*> Json.Record.field "max_fee" Wire.decoder
      <*> Json.Record.field "fee_multiplier" Wire.decoder).decoder "struct TransactionParameters"

end TokenGovernance
