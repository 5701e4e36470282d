import TokenGovernance.Proofs.Identity.Account
import TokenGovernance.Proofs.Json.Wire
import TokenGovernance.Proofs.Text.Hex

/-! # Spelled keys and addresses

Keys and addresses are read back from their digits, and an account from its key and its address.
-/

namespace TokenGovernance

open Outcome Json

theorem PublicKey.ofHex_eq_ok {s : String} {key : PublicKey} :
    ofHex s = .ok key ↔ (Text.trim s).toUpper = key.toHex := by
  obtain ⟨octets⟩ := key
  unfold ofHex toHex
  simp only [map_eq_ok, PublicKey.mk.injEq, exists_eq_right, readOctets_eq_ok]

/-- The texts that spell a key: its digits in any mix of cases, with blanks around them. -/
inductive PublicKey.Spelled (key : PublicKey) : String → Prop
  | padded (front digits back : String) (hfront : ∀ c ∈ front.toList, Text.isBlank c = true)
      (hback : ∀ c ∈ back.toList, Text.isBlank c = true) (h : digits.toUpper = key.toHex) :
      Spelled key (front ++ digits ++ back)

theorem PublicKey.Spelled.toUpper_trim {key : PublicKey} {text : String} (h : key.Spelled text) :
    (Text.trim text).toUpper = key.toHex := by
  cases h with
  | padded front digits back hfront hback h =>
    rw [Text.trim_append hfront hback, Hex.trim_of_toUpper h]
    exact h

theorem Address.ofHex_eq_ok {s : String} {a : Address} : ofHex s = .ok a ↔ (Text.trim s).toUpper = a.toHex := by
  unfold ofHex toHex
  rw [bind_eq_ok]
  constructor
  · rintro ⟨octets, hread, h⟩
    split at h
    · obtain rfl := Except.ok.inj h
      exact readOctets_eq_ok.mp hread
    · cases h
  · intro h
    exact ⟨a.octets, readOctets_eq_ok.mpr h, dif_pos a.valid⟩

theorem PublicKey.ofHex_toHex (key : PublicKey) : ofHex key.toHex = .ok key := by
  rw [ofHex_eq_ok]
  unfold toHex
  rw [Hex.trim_encode, Hex.toUpper_encode]

theorem Address.ofHex_toHex (a : Address) : ofHex a.toHex = .ok a := by
  rw [ofHex_eq_ok]
  unfold toHex
  rw [Hex.trim_encode, Hex.toUpper_encode]

theorem PublicAccount.ofPair_address (a : PublicAccount) : ofPair a.key a.address = .ok a := by
  unfold ofPair address
  rw [Address.network?_ofKey]
  exact if_pos rfl

theorem spelled_eq {α : Type} {read : String → Except Refusal α} {s : String} {a : α} {src : Source} {node : Node}
    (h : node.Denotes (.string s)) (hread : read s = .ok a) : spelled read src node = .ok a := by
  unfold spelled Decoder.refine
  dsimp only
  rw [string_eq h, ok_bind, hread]
  rfl

instance : LawfulWire Network where
  depth := 0
  fits n := .string 0 n.name
  decoder_eq {n _ _} h := variant_eq h n.ofName?_name

instance : LawfulWire PublicKey where
  depth := 0
  fits key := .string 0 key.toHex
  decoder_eq {key _ _} h := spelled_eq h key.ofHex_toHex

instance : LawfulWire Address where
  depth := 0
  fits a := .string 0 a.toHex
  decoder_eq {a _ _} h := spelled_eq h a.ofHex_toHex

namespace PublicAccount

/-- A key and an address, either spelled by some text. -/
def pair (key address : String) : Json :=
  .object [("address", .string address), ("public_key", .string key)]

theorem decoder_eq_of_pair {key address : String} {p : PublicAccount} (hkey : PublicKey.ofHex key = .ok p.key)
    (haddress : Address.ofHex address = .ok p.address) {src : Source} {node : Node}
    (h : node.Denotes (pair key address)) : (Wire.decoder : Decoder PublicAccount) src node = .ok p := by
  have hpair : (Prod.mk <$> Record.field "public_key" (Wire.decoder : Decoder PublicKey)
      <*> Record.field "address" (Wire.decoder : Decoder Address)).Reads
        [("address", .string address), ("public_key", .string key)] (p.key, p.address) :=
    (Record.Reads.fieldOr (fun _ _ hnode => spelled_eq hnode hkey) rfl).map.seq
      (.fieldOr (fun _ _ hnode => spelled_eq hnode haddress) rfl)
  change Decoder.refine (Record.decoder _ _) _ src node = _
  unfold Decoder.refine
  dsimp only
  rw [hpair.decoder_eq (by simp) h, ok_bind, p.ofPair_address]
  rfl

end PublicAccount

instance : LawfulWire PublicAccount where
  depth := 1
  fits a := .object <|
    LawfulWire.fits_cons (by decide) <| LawfulWire.fits_cons (by decide) <| List.forall_mem_nil _
  decoder_eq {a _ _} h := PublicAccount.decoder_eq_of_pair a.key.ofHex_toHex a.address.ofHex_toHex h

end TokenGovernance
