import TokenGovernance.Proofs.Identity.Codec
import TokenGovernance.Proofs.Text.Digits
import TokenGovernance.Proofs.Token.Nonce

/-! # One spelling for each value

Keys, addresses and nonces are written in the digits of their bytes. Every value has one spelling that is written, and
what is read of any other text that is accepted is written as this text in upper case.
-/

namespace TokenGovernance

section

variable {α : Type} {n : Nat} {octets : α → Octets n} {allowed : Octets n → Prop} {bare : String → String}
  {write : α → String} {read : String → Except Refusal α}

/-- Values that are written in the digits of their octets and read from such digits. Around the digits that are read
there may be what `bare` takes off, and the octets that they spell have to be allowed. -/
structure SpelledExactly (octets : α → Octets n) (allowed : Octets n → Prop) (bare : String → String)
    (write : α → String) (read : String → Except Refusal α) : Prop where
  reread (a : α) : read (write a) = .ok a
  spells (a : α) : Hex.Spells (write a).toList (octets a).1
  digits (a : α) : (write a).toList.length = 2 * n ∧ ∀ d ∈ (write a).toList, d ∈ Hex.upperDigits
  distinct (a b : α) : write a = write b → a = b
  ordered (a b : α) : write a < write b ↔ (octets a).1 < (octets b).1
  accepted (text : String) : (∃ a, read text = .ok a) ↔
    Hex.Digits (2 * n) (bare text) ∧ ∀ o : Octets n, Hex.Spells (bare text).toList o.1 → allowed o
  canonical (text : String) (a : α) : read text = .ok a → write a = (bare text).toUpper
  same (text text' : String) (a a' : α) : read text = .ok a → read text' = .ok a' →
    (a = a' ↔ (bare text).toUpper = (bare text').toUpper)

/-! ## One kind of value -/

/-- What reading, writing and the octets of values have to do with each other. -/
structure Spelling (octets : α → Octets n) (allowed : Octets n → Prop) (bare : String → String)
    (write : α → String) (read : String → Except Refusal α) : Prop where
  injective : Function.Injective octets
  allowed_iff (o : Octets n) : allowed o ↔ ∃ a, octets a = o
  write_eq (a : α) : write a = Hex.encode (octets a).1
  read_eq_ok {text : String} {a : α} : read text = .ok a ↔ (bare text).toUpper = write a
  bare_digits (bytes : List UInt8) : bare (Hex.encode bytes) = Hex.encode bytes

namespace Spelling

variable (h : Spelling octets allowed bare write read)

include h

theorem spells_write (a : α) : Hex.Spells (write a).toList (octets a).1 := by
  rw [Hex.spells_iff_toUpper, h.write_eq, Hex.toUpper_encode]

theorem read_write (a : α) : read (write a) = .ok a := by
  rw [h.read_eq_ok, h.write_eq, h.bare_digits, Hex.toUpper_encode]

theorem write_inj {a b : α} (heq : write a = write b) : a = b := by
  rw [h.write_eq, h.write_eq] at heq
  exact h.injective (Subtype.ext (Hex.encode_inj heq))

theorem read_eq_ok_iff_spells {text : String} {a : α} :
    read text = .ok a ↔ Hex.Spells (bare text).toList (octets a).1 := by
  rw [h.read_eq_ok, h.write_eq, Hex.spells_iff_toUpper]

theorem exists_read_iff (text : String) : (∃ a, read text = .ok a) ↔
    Hex.Digits (2 * n) (bare text) ∧ ∀ o : Octets n, Hex.Spells (bare text).toList o.1 → allowed o := by
  rw [Hex.digits_iff]
  constructor
  · rintro ⟨a, ha⟩
    have hspells := h.read_eq_ok_iff_spells.mp ha
    refine ⟨⟨octets a, hspells⟩, fun o ho => ?_⟩
    -- Digits spell one list of bytes alone.
    have hsame : Hex.encode o.1 = Hex.encode (octets a).1 := by
      rw [← Hex.spells_iff_toUpper.mp ho, Hex.spells_iff_toUpper.mp hspells]
    exact (h.allowed_iff o).mpr ⟨a, Subtype.ext (Hex.encode_inj hsame.symm)⟩
  · rintro ⟨⟨o, ho⟩, hallowed⟩
    obtain ⟨a, rfl⟩ := (h.allowed_iff o).mp (hallowed o ho)
    exact ⟨a, h.read_eq_ok_iff_spells.mpr ho⟩

theorem exactly : SpelledExactly octets allowed bare write read where
  reread := h.read_write
  spells := h.spells_write
  digits a := by
    rw [h.write_eq, Hex.encode, String.toList_ofList, Hex.length_chars, (octets a).2]
    exact ⟨rfl, fun d hd => Hex.chars_subset_upperDigits _ hd⟩
  distinct _ _ := h.write_inj
  ordered a b := by rw [h.write_eq, h.write_eq, Hex.encode_lt_encode]
  accepted := h.exists_read_iff
  canonical _ _ ha := (h.read_eq_ok.mp ha).symm
  same text text' a a' ha ha' := by
    rw [h.read_eq_ok.mp ha, h.read_eq_ok.mp ha']
    exact ⟨congrArg write, h.write_inj⟩

end Spelling

end

/-! ## Keys, nonces and addresses -/

theorem PublicKey.spelling : Spelling octets (fun _ => True) Text.trim toHex ofHex where
  injective := fun ⟨_⟩ ⟨_⟩ h => congrArg mk h
  allowed_iff o := iff_of_true trivial ⟨⟨o⟩, rfl⟩
  write_eq _ := rfl
  read_eq_ok := ofHex_eq_ok
  bare_digits := Hex.trim_encode

theorem TokenNonce.spelling : Spelling octets (fun _ => True) id toHex ofHex where
  injective := fun ⟨_⟩ ⟨_⟩ h => congrArg mk h
  allowed_iff o := iff_of_true trivial ⟨⟨o⟩, rfl⟩
  write_eq _ := rfl
  read_eq_ok := ofHex_eq_ok
  bare_digits _ := rfl

theorem Address.spelling : Spelling octets (isValid · = true) Text.trim toHex ofHex where
  injective := by
    rintro ⟨_, _⟩ ⟨_, _⟩ rfl
    rfl
  allowed_iff o := by
    constructor
    · exact fun hvalid => ⟨⟨o, hvalid⟩, rfl⟩
    · rintro ⟨a, rfl⟩
      exact a.valid
  write_eq _ := rfl
  read_eq_ok := ofHex_eq_ok
  bare_digits := Hex.trim_encode

/-- Keys and nonces are read from any octets of their size, addresses from those that are valid. Blanks may stand
around keys and addresses, and nothing around nonces. -/
theorem spelled_exactly :
    SpelledExactly PublicKey.octets (fun _ => True) Text.trim PublicKey.toHex PublicKey.ofHex ∧
    SpelledExactly TokenNonce.octets (fun _ => True) id TokenNonce.toHex TokenNonce.ofHex ∧
    SpelledExactly Address.octets (Address.isValid · = true) Text.trim Address.toHex Address.ofHex :=
  ⟨PublicKey.spelling.exactly, TokenNonce.spelling.exactly, Address.spelling.exactly⟩

end TokenGovernance
