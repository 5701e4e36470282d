import TokenGovernance.Proofs.Text.Hex

/-! # Nonces of seeds

A seed has a nonce as soon as it is not blank, and a nonce is the nonce of its own digits. The digits are told
from other seeds by their look alone, so this has to hold however the nonce was come by.
-/

namespace TokenGovernance.TokenNonce

open Outcome

/-! ## Digits -/

theorem ascii_of_isDigit {c : Char} (h : isDigit c = true) : c.toNat < 128 := by
  unfold isDigit at h
  simp only [Bool.or_eq_true, Bool.and_eq_true, decide_eq_true_eq] at h
  obtain (⟨-, hc⟩ | ⟨-, hc⟩) | ⟨-, hc⟩ := h
  · exact Text.ascii_of_le hc (by decide)
  · exact Text.ascii_of_le hc (by decide)
  · exact Text.ascii_of_le hc (by decide)

theorem isDigit_iff_of_ascii {c : Char} (h : c.toNat < 128) :
    isDigit c = true ↔ c.toUpper ∈ Hex.upperDigits := by
  have hall : ∀ n < 128, isDigit (.ofNat n) = true ↔ (Char.ofNat n).toUpper ∈ Hex.upperDigits := by
    decide +kernel
  exact Text.forall_ascii (fun c => isDigit c = true ↔ c.toUpper ∈ Hex.upperDigits) hall h

theorem isDigit_iff {c : Char} : isDigit c = true ↔ c.toUpper ∈ Hex.upperDigits := by
  constructor
  · intro h
    exact (isDigit_iff_of_ascii (ascii_of_isDigit h)).mp h
  · intro h
    exact (isDigit_iff_of_ascii (Hex.ascii_of_toUpper_mem h)).mpr h

theorem ofHex_eq_ok {s : String} {n : TokenNonce} : ofHex s = .ok n ↔ s.toUpper = n.toHex := by
  obtain ⟨octets⟩ := n
  unfold toHex
  rw [← Hex.decode_eq_ok_iff]
  unfold ofHex
  cases Hex.decode s with
  | error fault => simp
  | ok bytes =>
    rw [Except.ok.injEq, ← Octets.ofList?_eq_some_iff]
    dsimp only
    cases Octets.ofList? 4 bytes with
    | none => simp
    | some found => simp

theorem toUpper_eq_toHex_iff {s : String} {n : TokenNonce} :
    s.toUpper = n.toHex ↔ s.toList.map Char.toUpper = Hex.chars n.octets.1 :=
  Hex.toUpper_eq_encode_iff

theorem isDigit_of_toUpper {s : String} {n : TokenNonce} (h : s.toUpper = n.toHex) :
    ∀ c ∈ s.toList, isDigit c = true := by
  intro c hc
  rw [isDigit_iff]
  apply Hex.chars_subset_upperDigits n.octets.1
  rw [← toUpper_eq_toHex_iff.mp h]
  exact List.mem_map_of_mem hc

theorem length_of_toUpper {s : String} {n : TokenNonce} (h : s.toUpper = n.toHex) : s.toList.length = 8 := by
  have hlength := congrArg List.length (toUpper_eq_toHex_iff.mp h)
  rw [List.length_map, Hex.length_chars, n.octets.2] at hlength
  exact hlength

theorem isLiteral_iff {s : String} : isLiteral s = true ↔ ∃ n : TokenNonce, s.toUpper = n.toHex := by
  unfold isLiteral
  rw [Bool.and_eq_true, beq_iff_eq, List.all_eq_true]
  constructor
  · rintro ⟨hbytes, hdigits⟩
    have hlength : s.toList.length = 8 := by
      rw [← hbytes, Text.utf8Length_of_ascii fun c hc => ascii_of_isDigit (hdigits c hc)]
    obtain ⟨octets, h⟩ := Hex.exists_octets (n := 4) hlength fun c hc => isDigit_iff.mp (hdigits c hc)
    exact ⟨⟨octets⟩, toUpper_eq_toHex_iff.mpr h⟩
  · rintro ⟨n, h⟩
    have hdigits := isDigit_of_toUpper h
    refine ⟨?_, hdigits⟩
    rw [Text.utf8Length_of_ascii fun c hc => ascii_of_isDigit (hdigits c hc), length_of_toUpper h]

/-! ## Seeds -/

theorem isBlank_of_isDigit {c : Char} (h : isDigit c = true) : Text.isBlank c = false := by
  have hall : ∀ n < 128, isDigit (.ofNat n) = true → Text.isBlank (.ofNat n) = false := by decide +kernel
  exact Text.forall_ascii (fun c => isDigit c = true → Text.isBlank c = false) hall (ascii_of_isDigit h) h

theorem ofSeed_congr {s t : String} (h : Text.trim s = Text.trim t) : ofSeed s = ofSeed t := by
  unfold ofSeed
  rw [h]

theorem ofSeed_of_toUpper {s : String} {n : TokenNonce} (h : s.toUpper = n.toHex) : ofSeed s = .ok n := by
  have htrim : Text.trim s = s :=
    Text.trim_eq_self fun c hc => isBlank_of_isDigit (isDigit_of_toUpper h c hc)
  have hne : s ≠ "" := by
    rintro rfl
    exact absurd (length_of_toUpper h) (by decide)
  unfold ofSeed
  rw [htrim, if_neg hne, if_pos (isLiteral_iff.mpr ⟨n, h⟩), ofHex_eq_ok.mpr h]

theorem ofSeed_toHex (n : TokenNonce) : ofSeed n.toHex = .ok n :=
  ofSeed_of_toUpper (Hex.toUpper_encode _)

theorem exists_ofSeed_iff {s : String} : (∃ n, ofSeed s = .ok n) ↔ ∃ c ∈ s.toList, Text.isBlank c = false := by
  have hblank : (∃ c ∈ s.toList, Text.isBlank c = false) ↔ Text.trim s ≠ "" := by
    rw [ne_eq, Text.trim_eq_empty_iff]
    simp
  rw [hblank]
  unfold ofSeed
  constructor
  · rintro ⟨n, h⟩ hempty
    rw [if_pos hempty] at h
    cases h
  · intro hne
    rw [if_neg hne]
    by_cases hliteral : isLiteral (Text.trim s) = true
    · obtain ⟨n, hn⟩ := isLiteral_iff.mp hliteral
      exact ⟨n, by rw [if_pos hliteral, ofHex_eq_ok.mpr hn]⟩
    · exact ⟨digest (Text.trim s), if_neg hliteral⟩

end TokenGovernance.TokenNonce
