import TokenGovernance.Json.Record

/-! # Types with a JSON form -/

namespace TokenGovernance

/-- How values of a type are written as JSON and read from it. -/
class Wire (α : Type) where
  toJson : α → Json
  decoder : Json.Decoder α

export Wire (toJson)

namespace Wire

instance {α : Type} [Wire α] : Wire (List α) where
  toJson l := .array (l.map toJson)
  decoder := decoder.list

/-- A value that may be absent is null when it is. -/
instance {α : Type} [Wire α] : Wire (Option α) where
  toJson := Json.ofOption toJson
  decoder := decoder.optional

instance : Wire String where
  toJson := .string
  decoder := .string

instance : Wire Bool where
  toJson := .bool
  decoder := .bool

instance : Wire UInt8 where
  toJson n := .nat n.toNat
  decoder := .u8

instance : Wire UInt32 where
  toJson n := .nat n.toNat
  decoder := .u32

instance : Wire UInt64 where
  toJson n := .nat n.toNat
  decoder := .u64

instance : Wire Int8 where
  toJson n := .int n.toInt
  decoder := .i8

instance : Wire Int64 where
  toJson n := .int n.toInt
  decoder := .i64

instance : Wire Json where
  toJson := id
  decoder := .any

end Wire
end TokenGovernance
