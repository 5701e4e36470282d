import TokenGovernance.Governance.Role
import TokenGovernance.Identity.Codec

/-! # Operators

The cosignatories of a token account. An operator is spelled as a bare key or as a key with a role.
-/

namespace TokenGovernance

/-- A cosignatory and its role. -/
structure Operator where
  key : PublicKey
  role : Role
  deriving DecidableEq

namespace Operator

def ofKey (key : PublicKey) : Operator :=
  ⟨key, .operator⟩

def account (o : Operator) (network : Network) : PublicAccount :=
  ⟨o.key, network⟩

def bareDecoder : Json.Decoder Operator :=
  (Wire.decoder (α := PublicKey)).map ofKey

/-- Reads a key with a role, which may be left out. -/
def fullDecoder : Json.Decoder Operator :=
  (Operator.mk <$> Json.Record.field "public_key" Wire.decoder
    <*> Json.Record.fieldDefault "role" Wire.decoder Role.operator).decoder "struct variant OperatorRepr::Full"

/-- Reads either form, the value being read whole first. Only an object holds a key with a role. -/
def decoder : Json.Decoder Operator :=
  fun _ node => do
    let _ ← node.value
    let form := match node with
      | .object .. => fullDecoder
      | _ => bareDecoder
    (form .trial node).mapError fun _ => ⟨.noVariant "OperatorRepr", none⟩

end Operator

instance : Wire Operator where
  toJson o := .object [("public_key", toJson o.key), ("role", toJson o.role)]
  decoder := Operator.decoder

end TokenGovernance
