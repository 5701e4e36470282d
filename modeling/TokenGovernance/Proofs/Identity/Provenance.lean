import TokenGovernance.Governance.Allowance
import TokenGovernance.Ledger.Snapshot
import TokenGovernance.Proofs.Command.Conformity
import TokenGovernance.Proofs.Json.Texts
import TokenGovernance.Proofs.Keyed
import TokenGovernance.Proofs.Transaction.Codec
import TokenGovernance.Token.Metadata

/-! # Where identities come from

An address is built from a key or read from its digits, and an account is read as a key with an address. Whatever
the value around them, the addresses and accounts that a decoder lets in are those that the texts of the document
spell, each with the network and the checksum that it must have.
-/

namespace TokenGovernance

open Outcome Json

/-- An address, or a key with the address that goes with it. -/
inductive Identity
  | address (a : Address)
  | account (p : PublicAccount)

namespace Identity

/-- An address is of a known network and closes with its checksum; that of an account is the one of its key. -/
def WellFormed : Identity → Prop
  | address a => Address.isValid a.octets = true ∧ ∃ network, a.network? = some network
  | account p => Address.isValid p.address.octets = true ∧ p.address.network? = some p.network ∧
      p.address = .ofKey p.key p.network

/-- Some of the texts are the digits of an identity. -/
def SpelledBy (texts : List String) : Identity → Prop
  | address a => ∃ s ∈ texts, Address.ofHex s = .ok a
  | account p => (∃ s ∈ texts, PublicKey.ofHex s = .ok p.key) ∧ ∃ s ∈ texts, Address.ofHex s = .ok p.address

theorem wellFormed (i : Identity) : i.WellFormed := by
  cases i with
  | address a =>
    refine ⟨a.valid, ?_⟩
    have hvalid := a.valid
    unfold Address.isValid at hvalid
    rw [Bool.and_eq_true, Option.isSome_iff_exists] at hvalid
    exact hvalid.1
  | account p => exact ⟨p.address.valid, Address.network?_ofKey _ _, rfl⟩

theorem SpelledBy.mono {texts texts' : List String} {i : Identity} (h : i.SpelledBy texts) (hle : texts ⊆ texts') :
    i.SpelledBy texts' := by
  cases i with
  | address a =>
    obtain ⟨s, hs, hread⟩ := h
    exact ⟨s, hle hs, hread⟩
  | account p =>
    obtain ⟨⟨s, hs, hkey⟩, t, ht, haddress⟩ := h
    exact ⟨⟨s, hle hs, hkey⟩, t, hle ht, haddress⟩

end Identity

/-- Types whose values have identities in them. -/
class Bears (α : Type) where
  identities : α → List Identity

export Bears (identities)

instance : Bears Address where
  identities a := [.address a]

instance : Bears PublicAccount where
  identities p := [.account p]

instance {α : Type} [Bears α] : Bears (List α) where
  identities l := l.flatMap identities

instance : Bears Operation where
  identities o := identities o.addresses

instance : Bears InnerTransaction where
  identities t := identities t.signer ++ identities t.transaction.operation

instance : Bears TokenIdentifier where
  identities t := identities t.owner

instance : Bears AccountRestriction where
  identities r := identities r.address

instance : Bears Allowance where
  identities a := identities a.address

instance : Bears TokenMetadata where
  identities m := identities m.source

instance : Bears AccountMetadata where
  identities m := identities m.address ++ identities m.source

instance : Bears Multisig where
  identities m := identities m.account

instance : Bears Snapshot where
  identities s := identities s.accounts ++ s.records.flatMap fun (a, m) => identities a ++ identities m

/-- Types whose values are read with no identity that the document does not spell. -/
class Grounded (α : Type) [Wire α] [Bears α] : Prop where
  spelled {src : Source} {node : Node} {a : α} (h : (Wire.decoder : Decoder α) src node = .ok a) :
    ∀ i ∈ identities a, i.SpelledBy node.texts

/-! ## Addresses and accounts -/

theorem exists_text_of_spelled {α : Type} {read : String → Except Refusal α} {src : Source} {node : Node} {a : α}
    (h : spelled read src node = .ok a) : ∃ s, node.texts = [s] ∧ read s = .ok a := by
  obtain ⟨s, hs, hread⟩ := refine_eq_ok.mp h
  exact ⟨s, texts_of_string hs, mapError_eq_ok.mp hread⟩

instance : Grounded Address where
  spelled h := by
    obtain ⟨s, htexts, hread⟩ := exists_text_of_spelled h
    refine List.forall_mem_singleton.mpr ⟨s, ?_, hread⟩
    rw [htexts]
    exact List.mem_singleton_self s

namespace PublicAccount

theorem ofPair_eq_ok {key : PublicKey} {a : Address} {p : PublicAccount} :
    ofPair key a = .ok p ↔ p.key = key ∧ p.address = a := by
  constructor
  · intro h
    unfold ofPair at h
    split at h
    · cases h
    · obtain ⟨haddress, h⟩ := require_eq_ok.mp h
      obtain rfl := Except.ok.inj h
      exact ⟨rfl, haddress⟩
  · rintro ⟨rfl, rfl⟩
    exact p.ofPair_address

theorem ofPair_ne_unknownNetwork (key : PublicKey) (a : Address) :
    ofPair key a ≠ .error (.invalidArgument "address" .unknownNetwork) := by
  obtain ⟨-, network, hnetwork⟩ := (Identity.address a).wellFormed
  unfold ofPair
  rw [hnetwork]
  dsimp only
  split
  · exact nofun
  · exact nofun

end PublicAccount

namespace Grounded

variable {α : Type} [Wire α] [Bears α] [Grounded α] {src : Source} {node part : Node}

theorem of_part {a : α} (hread : (Wire.decoder : Decoder α) src part = .ok a) (hpart : part.texts ⊆ node.texts) :
    ∀ i ∈ identities a, i.SpelledBy node.texts :=
  fun i hi => (spelled hread i hi).mono hpart

instance : Grounded (List α) where
  spelled h := by
    intro i hi
    obtain ⟨a, ha, hi⟩ := List.mem_flatMap.mp hi
    obtain ⟨part, hpart, hread⟩ := exists_of_mem_list h a ha
    exact of_part hread hpart i hi

end Grounded

open Grounded Record

theorem PublicAccount.exists_parts {src : Source} {find : String → Option Node} {p : PublicAccount}
    (hbuild : (Prod.mk <$> field "public_key" (Wire.decoder : Decoder PublicKey)
      <*> field "address" (Wire.decoder : Decoder Address)).build src find = .ok (p.key, p.address)) :
    (∃ part s, find "public_key" = some part ∧ part.texts = [s] ∧ PublicKey.ofHex s = .ok p.key) ∧
      ∃ part s, find "address" = some part ∧ part.texts = [s] ∧ Address.ofHex s = .ok p.address := by
  simp only [build_seq_eq_ok, build_map_eq_ok, build_field_eq_ok, exists_exists_and_eq_and] at hbuild
  obtain ⟨key, ⟨keyPart, hkey, hkeyRead⟩, address, ⟨addressPart, haddress, haddressRead⟩, heq⟩ := hbuild
  obtain ⟨rfl, rfl⟩ := Prod.mk.inj heq
  obtain ⟨s, hs, hofHex⟩ := exists_text_of_spelled hkeyRead
  obtain ⟨t, ht, hofHex'⟩ := exists_text_of_spelled haddressRead
  exact ⟨⟨keyPart, s, hkey, hs, hofHex⟩, addressPart, t, haddress, ht, hofHex'⟩

instance : Grounded PublicAccount where
  spelled {src node p} h := by
    obtain ⟨⟨key, address⟩, hpair, h⟩ := refine_eq_ok.mp h
    obtain ⟨rfl, rfl⟩ := PublicAccount.ofPair_eq_ok.mp (mapError_eq_ok.mp h)
    obtain ⟨find, hfind, hbuild⟩ := exists_build hpair
    obtain ⟨⟨keyPart, s, hkey, hs, hkeyRead⟩, addressPart, t, haddress, ht, haddressRead⟩ :=
      PublicAccount.exists_parts hbuild
    refine List.forall_mem_singleton.mpr ⟨⟨s, hfind _ _ hkey ?_, hkeyRead⟩, t, hfind _ _ haddress ?_, haddressRead⟩
    · rw [hs]
      exact List.mem_singleton_self s
    · rw [ht]
      exact List.mem_singleton_self t

theorem PublicAccount.decode_pair_eq_ok {key address : String} {p : PublicAccount} :
    decode Wire.decoder (pair key address) = .ok p ↔
      PublicKey.ofHex key = .ok p.key ∧ Address.ofHex address = .ok p.address := by
  constructor
  · intro h
    obtain ⟨⟨key', address'⟩, hpair, h⟩ := refine_eq_ok.mp h
    obtain ⟨rfl, rfl⟩ := ofPair_eq_ok.mp (mapError_eq_ok.mp h)
    obtain ⟨find, hfind, hbuild⟩ := exists_build_object hpair
    obtain ⟨⟨keyPart, s, hkey, hs, hkeyRead⟩, addressPart, t, haddress, ht, haddressRead⟩ := exists_parts hbuild
    obtain rfl : keyPart = (Json.string key).toNode := by simpa [entries_toMembers] using hfind _ _ hkey
    obtain rfl : addressPart = (Json.string address).toNode := by simpa [entries_toMembers] using hfind _ _ haddress
    rw [toNode, Node.texts, List.singleton_inj] at hs ht
    subst hs ht
    exact ⟨hkeyRead, haddressRead⟩
  · rintro ⟨hkey, haddress⟩
    exact decoder_eq_of_pair hkey haddress (denotes_toNode _)

theorem PublicAccount.exists_decode_pair_iff {key : PublicKey} {raw : Octets 24} :
    (∃ p : PublicAccount, decode Wire.decoder (pair key.toHex (Hex.encode raw.1)) = .ok p) ↔
      ∃ network, raw = (Address.ofKey key network).octets := by
  constructor
  · rintro ⟨p, hp⟩
    obtain ⟨hkey, haddress⟩ := decode_pair_eq_ok.mp hp
    rw [PublicKey.ofHex_toHex, Except.ok.injEq] at hkey
    rw [Address.ofHex_eq_ok, Hex.trim_encode, Hex.toUpper_encode] at haddress
    refine ⟨p.network, Subtype.ext ?_⟩
    rw [hkey]
    exact Hex.encode_inj haddress
  · rintro ⟨network, rfl⟩
    let p : PublicAccount := ⟨key, network⟩
    exact ⟨p, decode_pair_eq_ok.mpr ⟨key.ofHex_toHex, p.address.ofHex_toHex⟩⟩

/-! ## Records -/

instance : Grounded TokenIdentifier where
  spelled h := by
    obtain ⟨find, hfind, hbuild⟩ := exists_build h
    simp only [build_seq_eq_ok, build_map_eq_ok, build_field_eq_ok, exists_exists_and_eq_and] at hbuild
    obtain ⟨_, ⟨nonce, -, id, -, rfl⟩, owner, ⟨part, hpart, hread⟩, rfl⟩ := hbuild
    exact of_part (α := Address) hread (hfind _ _ hpart)

instance : Grounded AccountRestriction where
  spelled h := by
    obtain ⟨find, hfind, hbuild⟩ := exists_build h
    simp only [build_seq_eq_ok, build_map_eq_ok, build_field_eq_ok, exists_exists_and_eq_and] at hbuild
    obtain ⟨_, ⟨address, ⟨part, hpart, hread⟩, mode, -, rfl⟩, tokens, -, rfl⟩ := hbuild
    exact of_part (α := Address) hread (hfind _ _ hpart)

instance : Grounded Allowance where
  spelled h := by
    obtain ⟨find, hfind, hbuild⟩ := exists_build h
    simp only [build_seq_eq_ok, build_map_eq_ok, build_field_eq_ok, exists_exists_and_eq_and] at hbuild
    obtain ⟨_, ⟨_, ⟨_, ⟨id, -, address, ⟨part, hpart, hread⟩, rfl⟩, role, -, rfl⟩, allowed, -, rfl⟩, denial, -, rfl⟩ :=
      hbuild
    exact of_part (α := Address) hread (hfind _ _ hpart)

instance : Grounded TokenMetadata where
  spelled h := by
    obtain ⟨find, hfind, hbuild⟩ := exists_build h
    simp only [build_seq_eq_ok, build_map_eq_ok, build_field_eq_ok, exists_exists_and_eq_and] at hbuild
    obtain ⟨_, ⟨_, ⟨id, -, source, ⟨part, hpart, hread⟩, rfl⟩, key, -, rfl⟩, value, -, rfl⟩ := hbuild
    exact of_part (α := Address) hread (hfind _ _ hpart)

instance : Grounded AccountMetadata where
  spelled h := by
    obtain ⟨find, hfind, hbuild⟩ := exists_build h
    simp only [build_seq_eq_ok, build_map_eq_ok, build_field_eq_ok, exists_exists_and_eq_and] at hbuild
    obtain ⟨_, ⟨_, ⟨address, ⟨part, hpart, hread⟩, source, ⟨part', hpart', hread'⟩, rfl⟩, key, -, rfl⟩, value, -,
      rfl⟩ := hbuild
    exact List.forall_mem_append.mpr ⟨of_part hread (hfind _ _ hpart), of_part hread' (hfind _ _ hpart')⟩

instance : Grounded Multisig where
  spelled h := by
    obtain ⟨find, hfind, hbuild⟩ := exists_build h
    simp only [build_seq_eq_ok, build_map_eq_ok, build_field_eq_ok, exists_exists_and_eq_and] at hbuild
    obtain ⟨_, ⟨_, ⟨account, ⟨part, hpart, hread⟩, keys, -, rfl⟩, approval, -, rfl⟩, removal, -, rfl⟩ := hbuild
    exact of_part (α := Address) hread (hfind _ _ hpart)

/-! ## Transactions -/

instance : Grounded Operation where
  spelled {src node o} h := by
    obtain ⟨c, hc, part, hpart, hcontent⟩ := Case.exists_content h
    refine fun i hi => Identity.SpelledBy.mono ?_ hpart
    revert i
    simp only [Operation.cases, List.map_cons, List.map_nil, List.mem_cons, List.not_mem_nil, or_false] at hc
    -- Only transfers and flags of accounts have an address in them.
    rcases hc with rfl | rfl | rfl | rfl | rfl | rfl | rfl | rfl
    all_goals
      obtain ⟨find, hfind, hbuild⟩ := exists_build hcontent
      simp only [Operation.transferRecord, Operation.multisigRecord, Operation.registrationRecord,
        Operation.definitionRecord, Operation.supplyRecord, Operation.accountRestrictionRecord,
        Operation.globalRestrictionRecord, Operation.addressRestrictionRecord, build_seq_eq_ok, build_map_eq_ok,
        build_field_eq_ok, exists_exists_and_eq_and] at hbuild
    · obtain ⟨_, ⟨recipient, ⟨part, hpart, hread⟩, amounts, -, rfl⟩, message, -, rfl⟩ := hbuild
      exact of_part (α := Address) hread (hfind _ _ hpart)
    · obtain ⟨_, -, _, -, rfl⟩ := hbuild
      exact List.forall_mem_nil _
    · obtain ⟨_, -, _, -, rfl⟩ := hbuild
      exact List.forall_mem_nil _
    · obtain ⟨_, -, _, -, rfl⟩ := hbuild
      exact List.forall_mem_nil _
    · obtain ⟨_, ⟨tokenId, -, action, -, rfl⟩, delta, -, rfl⟩ := hbuild
      exact List.forall_mem_nil _
    · obtain ⟨_, ⟨mode, -, additions, -, rfl⟩, deletions, -, rfl⟩ := hbuild
      exact List.forall_mem_nil _
    · obtain ⟨_, -, _, -, rfl⟩ := hbuild
      exact List.forall_mem_nil _
    · obtain ⟨_, ⟨_, ⟨_, ⟨_, ⟨tokenId, -, key, -, rfl⟩, target, ⟨part, hpart, hread⟩, rfl⟩, previous, -, rfl⟩, new, -,
        rfl⟩, rfl⟩ := hbuild
      exact of_part (α := Address) hread (hfind _ _ hpart)

instance : Grounded InnerTransaction where
  spelled {src node t} h := by
    obtain ⟨find, hfind, hbuild⟩ := exists_build h
    simp only [build_seq_eq_ok, build_map_eq_ok, build_field_eq_ok, exists_exists_and_eq_and] at hbuild
    obtain ⟨signer, ⟨part, hpart, hsigner⟩, transaction, ⟨part', hpart', htransaction⟩, rfl⟩ := hbuild
    obtain ⟨find', hfind', hbuild⟩ := exists_build htransaction
    simp only [build_seq_eq_ok, build_map_eq_ok, build_field_eq_ok, exists_exists_and_eq_and] at hbuild
    obtain ⟨_, ⟨_, ⟨network, -, deadline, -, rfl⟩, fee, -, rfl⟩, o, ⟨body, hbody, hread⟩, rfl⟩ := hbuild
    exact List.forall_mem_append.mpr ⟨of_part (α := PublicAccount) hsigner (hfind _ _ hpart),
      of_part (α := Operation) hread (List.Subset.trans (hfind' _ _ hbody) (hfind _ _ hpart'))⟩

/-! ## Snapshots -/

instance : Grounded Snapshot where
  spelled {src node s} h := by
    obtain ⟨find, hfind, hbuild⟩ := exists_build h
    obtain ⟨_, hmk, records, hrecords, rfl⟩ := build_seq_eq_ok.mp hbuild
    obtain ⟨accounts, haccounts, rfl⟩ := build_map_eq_ok.mp hmk
    refine List.forall_mem_append.mpr ⟨?_, ?_⟩
    · rcases build_fieldOr_eq_ok.mp haccounts with ⟨-, hnone⟩ | ⟨part, hpart, hread⟩
      · obtain rfl := Except.ok.inj hnone
        exact List.forall_mem_nil _
      · exact of_part (α := List Address) hread (hfind _ _ hpart)
    · rcases build_fieldOr_eq_ok.mp hrecords with ⟨-, hnone⟩ | ⟨part, hpart, hread⟩
      · obtain rfl := Except.ok.inj hnone
        exact List.forall_mem_nil _
      · obtain ⟨pairs, hpairs, rfl⟩ := map_eq_ok.mp hread
        refine List.forall_mem_flatMap.mpr fun (a, m) hmem => ?_
        obtain ⟨name, hname, hkey, record, hrecord, hvalue⟩ :=
          exists_of_mem_table hpairs (a, m) (Keyed.mem_of_mem_ofList hmem)
        refine List.forall_mem_append.mpr ⟨List.forall_mem_singleton.mpr ?_, ?_⟩
        · exact ⟨name, hfind _ _ hpart hname, mapError_eq_ok.mp hkey⟩
        · exact of_part (α := Multisig) hvalue (List.Subset.trans hrecord (hfind _ _ hpart))

/-! ## Every door -/

/-- Whatever a value of the type is read from, the identities in it are well-formed and spelled there. -/
structure Wire.Guarded (α : Type) [Wire α] [Bears α] : Prop where
  value : ∀ (j : Json) (a : α), decode Wire.decoder j = .ok a →
    ∀ i ∈ identities a, i.WellFormed ∧ i.SpelledBy j.texts
  text : ∀ (s : String) (a : α), decodeText Wire.decoder s = .ok a →
    ∀ i ∈ identities a, i.WellFormed ∧ i.SpelledBy (Document.read s).root.texts

theorem Grounded.guarded (α : Type) [Wire α] [Bears α] [Grounded α] : Wire.Guarded α where
  value _ _ h i hi := ⟨i.wellFormed, spelled h i hi⟩
  text _ _ h i hi := by
    obtain ⟨a, hread, h⟩ := bind_eq_ok.mp h
    split at h
    · obtain rfl := Except.ok.inj h
      exact ⟨i.wellFormed, spelled hread i hi⟩
    · cases h

/-- Only well-formed identities are made of keys or read from documents, a key is read with its own addresses only,
and nothing but the checksum closes an address. -/
theorem Identity.admitted_only_well_formed :
    (∀ (key : PublicKey) (network : Network), Address.isValid (Address.ofKey key network).octets = true ∧
      (Address.ofKey key network).network? = some network ∧
        Address.ofHex (Address.ofKey key network).toHex = .ok (.ofKey key network)) ∧
    (Wire.Guarded Address ∧ Wire.Guarded PublicAccount ∧ Wire.Guarded InnerTransaction ∧ Wire.Guarded Snapshot ∧
      Wire.Guarded TokenIdentifier ∧ Wire.Guarded AccountRestriction ∧ Wire.Guarded Allowance ∧
        Wire.Guarded TokenMetadata ∧ Wire.Guarded AccountMetadata ∧ Wire.Guarded Multisig) ∧
    (∀ (key address : String) (p : PublicAccount), decode Wire.decoder (PublicAccount.pair key address) = .ok p ↔
      PublicKey.ofHex key = .ok p.key ∧ Address.ofHex address = .ok (.ofKey p.key p.network)) ∧
    (∀ (key : PublicKey) (raw : Octets 24),
      (∃ p : PublicAccount, decode Wire.decoder (PublicAccount.pair key.toHex (Hex.encode raw.1)) = .ok p) ↔
        ∃ network, raw = (Address.ofKey key network).octets) ∧
    (∀ (key : PublicKey) (a : Address),
      PublicAccount.ofPair key a ≠ .error (.invalidArgument "address" .unknownNetwork)) ∧
    ∀ front : Octets 21, (∃! tail : Octets 3, Address.isValid (front.append tail) = true) ↔
      ∃ network : Network, front.1.head? = some network.byte := by
  refine ⟨fun key network => ?_, ?_, ?_, ?_, PublicAccount.ofPair_ne_unknownNetwork, ?_⟩
  · exact ⟨(Address.ofKey key network).valid, Address.network?_ofKey key network, Address.ofHex_toHex _⟩
  · exact ⟨guarded _, guarded _, guarded _, guarded _, guarded _, guarded _, guarded _, guarded _, guarded _,
      guarded _⟩
  · exact fun key address p => PublicAccount.decode_pair_eq_ok
  · exact fun key raw => PublicAccount.exists_decode_pair_iff
  · exact fun front => Address.existsUnique_tail_iff

open Sample in
theorem Identity.admitted_transfer :
    (∃ (j : Json) (t : InnerTransaction), decode Wire.decoder j = .ok t ∧
      identities t = [.account target, .address (.ofKey (key 2) .testnet)] ∧
        ∀ i ∈ identities t, i.WellFormed ∧ i.SpelledBy j.texts) ∧
    ¬ ∃ p : PublicAccount,
      decode Wire.decoder (PublicAccount.pair (key 9).toHex (Hex.encode (Octets.fill 24 0).1)) = .ok p := by
  obtain ⟨-, ⟨-, -, hguarded, -⟩, -, hpair, -⟩ := Identity.admitted_only_well_formed
  refine ⟨?_, ?_⟩
  · let t : InnerTransaction := ⟨target, .testnet, ⟨0⟩, 100, .transfer (.ofKey (key 2) .testnet) [] none⟩
    have ht : decode Wire.decoder (toJson t) = .ok t := LawfulWire.decoder_eq (denotes_toNode _)
    exact ⟨toJson t, t, ht, rfl, hguarded.value _ t ht⟩
  · rw [hpair]
    rintro ⟨network, hraw⟩
    have hhead : network.byte = 0 := (List.cons.inj (congrArg Subtype.val hraw)).1.symm
    cases network <;> cases hhead

end TokenGovernance
