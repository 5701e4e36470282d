import TokenGovernance.Proofs.Identity.Codec
import TokenGovernance.Proofs.Token.Hexadecimal
import TokenGovernance.Proofs.Token.Nonce
import TokenGovernance.Transaction.Codec

/-! # Reloading transactions

Every transaction is read back from its form, and from its form as text. An operation is told from the others by
its tag, and what stands beside the tag is read as the record of its kind.
-/

namespace TokenGovernance

open Outcome Json LawfulWire

/-! ## Identifiers and names -/

theorem TokenNonce.ofHex_toHex (n : TokenNonce) : ofHex n.toHex = .ok n :=
  ofHex_eq_ok.mpr (Hex.toUpper_encode _)

theorem TokenId.ofHex_toHex (id : TokenId) : ofHex id.toHex = .ok id := by
  unfold ofHex toHex
  rw [Hexadecimal.read_write]
  rfl

theorem NamespaceId.ofHex_toHex (id : NamespaceId) : ofHex id.toHex = .ok id := by
  unfold ofHex toHex
  rw [Hexadecimal.read_write]
  rfl

instance : LawfulWire TokenNonce where
  depth := 0
  fits n := .string 0 n.toHex
  decoder_eq {n _ _} h := spelled_eq h n.ofHex_toHex

instance : LawfulWire TokenId where
  depth := 0
  fits id := .string 0 id.toHex
  decoder_eq {id _ _} h := spelled_eq h id.ofHex_toHex

instance : LawfulWire NamespaceId where
  depth := 0
  fits id := .string 0 id.toHex
  decoder_eq {id _ _} h := spelled_eq h id.ofHex_toHex

instance : SolidWire NamespaceId where
  toJson_ne_null _ := nofun

instance : LawfulWire Comparison where
  depth := 0
  fits c := .string 0 c.name
  decoder_eq {c _ _} h := variant_eq h c.ofName?_name

instance : LawfulWire ListMode where
  depth := 0
  fits m := .string 0 m.name
  decoder_eq {m _ _} h := variant_eq h m.ofName?_name

instance : LawfulWire NamespaceKind where
  depth := 0
  fits k := .string 0 k.name
  decoder_eq {k _ _} h := variant_eq h k.ofName?_name

instance : LawfulWire SupplyAction where
  depth := 0
  fits a := .string 0 a.name
  decoder_eq {a _ _} h := variant_eq h a.ofName?_name

instance : LawfulWire Deadline where
  depth := 0
  fits d := fits d.millis
  decoder_eq {d src node} h := by
    change ((Wire.decoder : Decoder Int64) src node).map Deadline.mk = _
    rw [decoder_eq (a := d.millis) h]
    rfl

/-! ## Operations -/

instance : LawfulWire TokenAmount where
  depth := 1
  fits _ := .object <| fits_cons (by decide) <| fits_cons (by decide) <| List.forall_mem_nil _
  decoder_eq h := Record.Reads.decoder_eq ((Record.Reads.field rfl).map.seq (.field rfl)) (by simp) h

instance : LawfulWire TokenFlags where
  depth := 1
  fits _ := .object <| fits_cons (by decide) <| fits_cons (by decide) <| fits_cons (by decide) <| List.forall_mem_nil _
  decoder_eq h :=
    Record.Reads.decoder_eq (((Record.Reads.field rfl).map.seq (.field rfl)).seq (.field rfl)) (by simp) h

namespace Operation

theorem fits_members (o : Operation) : ∀ m ∈ o.members, m.2.Fits 2 := by
  cases o <;>
  · repeat refine fits_cons (by decide) ?_
    exact List.forall_mem_singleton.mpr (.string 2 _)

theorem nodup_members (o : Operation) : (o.members.map (·.1)).Nodup := by
  cases o <;> simp [members]

theorem lookup_type (o : Operation) : o.members.lookup "type" = some (.string o.kind) := by
  cases o <;> rfl

/-- What stands beside the tag. -/
def parts (o : Operation) : List (String × Json) :=
  o.members.filter (·.1 != "type")

theorem nodup_parts (o : Operation) : (o.parts.map (·.1)).Nodup :=
  o.nodup_members.sublist (List.filter_sublist.map _)

theorem decoder_eq_of_reads {o : Operation} {name : String} (r : Record Operation)
    (hpick : Case.pick cases o.kind = some ⟨o.kind, r.decoder name⟩) (hreads : r.Reads o.parts o) {src : Source}
    {node : Node} (h : node.Denotes (toJson o)) : (Wire.decoder : Decoder Operation) src node = .ok o :=
  Case.decoder_eq h o.nodup_members o.lookup_type hpick fun _ hnode => hreads.decoder_eq o.nodup_parts hnode

end Operation

open Record Operation in
instance : LawfulWire Operation where
  depth := 3
  fits o := .object o.fits_members
  decoder_eq {o src node} h := by
    cases o with
    | transfer recipient amounts message =>
      exact decoder_eq_of_reads transferRecord rfl (((Reads.field rfl).map.seq (.field rfl)).seq (.nullable rfl)) h
    | multisig change =>
      exact decoder_eq_of_reads multisigRecord rfl
        ((((Reads.field rfl).map.seq (.field rfl)).seq (.field rfl)).seq (.field rfl)).map h
    | registration r =>
      exact decoder_eq_of_reads registrationRecord rfl
        (((((Reads.field rfl).map.seq (.field rfl)).seq (.field rfl)).seq (.nullable rfl)).seq (.field rfl)).map h
    | definition d =>
      exact decoder_eq_of_reads definitionRecord rfl
        (((((Reads.field rfl).map.seq (.field rfl)).seq (.field rfl)).seq (.field rfl)).seq (.field rfl)).map h
    | supply tokenId action delta =>
      exact decoder_eq_of_reads supplyRecord rfl (((Reads.field rfl).map.seq (.field rfl)).seq (.field rfl)) h
    | accountRestriction mode additions deletions =>
      exact decoder_eq_of_reads accountRestrictionRecord rfl (((Reads.field rfl).map.seq (.field rfl)).seq (.field rfl)) h
    | globalRestriction r =>
      exact decoder_eq_of_reads globalRestrictionRecord rfl
        (((((((Reads.field rfl).map.seq (.field rfl)).seq (.field rfl)).seq (.field rfl)).seq (.field rfl)).seq
          (.field rfl)).seq (.field rfl)).map h
    | addressRestriction r =>
      exact decoder_eq_of_reads addressRestrictionRecord rfl
        (((((Reads.field rfl).map.seq (.field rfl)).seq (.field rfl)).seq (.field rfl)).seq (.field rfl)).map h

instance : LawfulWire Transaction where
  depth := 4
  fits _ := .object <| fits_cons (by decide) <| fits_cons (by decide) <| fits_cons (by decide) <|
    fits_cons (by decide) <| List.forall_mem_nil _
  decoder_eq h :=
    Record.Reads.decoder_eq ((((Record.Reads.field rfl).map.seq (.field rfl)).seq (.field rfl)).seq (.field rfl))
      (by simp) h

instance : LawfulWire InnerTransaction where
  depth := 5
  fits _ := .object <| fits_cons (by decide) <| fits_cons (by decide) <| List.forall_mem_nil _
  decoder_eq h := Record.Reads.decoder_eq ((Record.Reads.field rfl).map.seq (.field rfl)) (by simp) h

end TokenGovernance
