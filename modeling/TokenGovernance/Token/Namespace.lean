import TokenGovernance.Token.Name
import TokenGovernance.Token.Hexadecimal
import TokenGovernance.Digest.Word

/-! # Namespaces

Every segment of a token name is a namespace under the one in front of it. The identifier of a
namespace follows from its name and from the identifier of its parent; its highest bit is set.
-/

namespace TokenGovernance

structure NamespaceId where
  value : UInt64
  deriving DecidableEq, Repr

namespace NamespaceId

def toHex (id : NamespaceId) : String :=
  Hexadecimal.write id.value

def ofHex (s : String) : Except Refusal NamespaceId :=
  (Hexadecimal.read "namespace_id" s).map NamespaceId.mk

/-- The bytes that a namespace is named by: the identifier of its parent, zero for a root, and its
own name. -/
def preimage (name : String) (parent : Option NamespaceId) : List UInt8 :=
  toLittleEndian 8 ((parent.map (·.value.toNat)).getD 0) ++ Text.utf8 name

/-- The namespace of a name under a parent, or of a root. -/
def ofName (name : String) (parent : Option NamespaceId) : NamespaceId :=
  ⟨digestWord (preimage name parent) ||| 0x8000000000000000⟩

/-- The namespace at the end of a chain of names. -/
def ofNames (parent : Option NamespaceId) (name : String) (rest : List String) : NamespaceId :=
  match rest with
  | [] => ofName name parent
  | next :: rest => ofNames (some (ofName name parent)) next rest

/-- The namespace of a path with dots between its parts. -/
def ofPath (path : String) : NamespaceId :=
  match TokenName.split path with
  | [] => ofName "" none
  | name :: rest => ofNames none name rest

end NamespaceId

instance : Wire NamespaceId where
  toJson id := .string id.toHex
  decoder := spelled NamespaceId.ofHex

end TokenGovernance
