import TokenGovernance.Proofs.Json.Value
import TokenGovernance.Proofs.Keyed
import TokenGovernance.Transaction.Codec

/-! # The order of members

The forms of transactions have the members of every object in the order of their keys, each key once. So a
reader that keeps an object as it is finds the form that was written.
-/

namespace TokenGovernance

open Json

/-- Types whose forms have their members in order. -/
class OrderedWire (α : Type) [Wire α] : Prop where
  normal_toJson (a : α) : (toJson a).normal = toJson a

namespace OrderedWire

attribute [simp] normal_toJson

instance : OrderedWire String where
  normal_toJson _ := rfl

instance : OrderedWire Bool where
  normal_toJson _ := rfl

instance : OrderedWire UInt8 where
  normal_toJson _ := rfl

instance : OrderedWire UInt64 where
  normal_toJson _ := rfl

instance : OrderedWire Int8 where
  normal_toJson _ := rfl

instance : OrderedWire Int64 where
  normal_toJson _ := rfl

section

variable {α : Type} [Wire α] [OrderedWire α]

@[simp] theorem normalItems_map_toJson (l : List α) : normalItems (l.map toJson) = l.map toJson := by
  induction l with
  | nil => rfl
  | cons a rest ih => rw [List.map_cons, normalItems, normal_toJson, ih]

instance : OrderedWire (List α) where
  normal_toJson l := congrArg Json.array (normalItems_map_toJson l)

instance : OrderedWire (Option α) where
  normal_toJson
    | none => rfl
    | some a => normal_toJson a

end

instance : OrderedWire TokenNonce where
  normal_toJson _ := rfl

instance : OrderedWire TokenId where
  normal_toJson _ := rfl

instance : OrderedWire NamespaceId where
  normal_toJson _ := rfl

instance : OrderedWire Comparison where
  normal_toJson _ := rfl

instance : OrderedWire ListMode where
  normal_toJson _ := rfl

instance : OrderedWire NamespaceKind where
  normal_toJson _ := rfl

instance : OrderedWire SupplyAction where
  normal_toJson _ := rfl

instance : OrderedWire Deadline where
  normal_toJson _ := rfl

instance : OrderedWire Network where
  normal_toJson _ := rfl

instance : OrderedWire PublicKey where
  normal_toJson _ := rfl

instance : OrderedWire Address where
  normal_toJson _ := rfl

/-! ## Objects -/

theorem normal_object (keys : List String) {members : List (String × Json)} (hkeys : members.map Prod.fst = keys)
    (hordered : keys.Pairwise (· < ·)) (hvalues : normalMembers members = members) :
    (Json.object members).normal = .object members := by
  have hincreasing : Keyed.Increasing members := List.pairwise_map.mp (hkeys ▸ hordered)
  rw [normal, hvalues, Keyed.ofList_of_increasing hincreasing]

instance : OrderedWire PublicAccount where
  normal_toJson _ := normal_object ["address", "public_key"] rfl (by decide) (by simp [normalMembers])

instance : OrderedWire TokenAmount where
  normal_toJson _ := normal_object ["amount", "id"] rfl (by decide) (by simp [normalMembers])

instance : OrderedWire TokenFlags where
  normal_toJson _ :=
    normal_object ["restrictable", "supply_mutable", "transferable"] rfl (by decide) (by simp [normalMembers])

end OrderedWire

namespace Operation

/-- The keys of an operation, the tag among them. -/
def keys : Operation → List String
  | .transfer .. => ["message", "mosaics", "recipient", "type"]
  | .multisig _ => ["additions", "deletions", "min_approval_delta", "min_removal_delta", "type"]
  | .registration _ => ["duration", "id", "name", "parent_id", "registration_type", "type"]
  | .definition _ => ["divisibility", "duration", "flags", "id", "nonce", "type"]
  | .supply .. => ["action", "delta", "token_id", "type"]
  | .accountRestriction .. => ["additions", "deletions", "flags", "type"]
  | .globalRestriction _ => ["new_type", "new_value", "previous_type", "previous_value", "reference_token_id",
      "restriction_key", "token_id", "type"]
  | .addressRestriction _ => ["new_value", "previous_value", "restriction_key", "target_address", "token_id", "type"]

theorem map_members (o : Operation) : o.members.map Prod.fst = o.keys := by
  cases o with
  | _ => rfl

theorem pairwise_keys (o : Operation) : o.keys.Pairwise (· < ·) := by
  cases o with
  | _ =>
    simp only [keys]
    decide

theorem normalMembers_members (o : Operation) : normalMembers o.members = o.members := by
  cases o with
  | _ => simp [members, normalMembers, normal]

end Operation

namespace OrderedWire

instance : OrderedWire Operation where
  normal_toJson o := normal_object o.keys o.map_members o.pairwise_keys o.normalMembers_members

instance : OrderedWire Transaction where
  normal_toJson _ :=
    normal_object ["body", "deadline", "max_fee", "network_type"] rfl (by decide) (by simp [normalMembers])

instance : OrderedWire InnerTransaction where
  normal_toJson _ := normal_object ["signer", "transaction"] rfl (by decide) (by simp [normalMembers])

end OrderedWire
end TokenGovernance
