import TokenGovernance.Proofs.Text.Digits
import TokenGovernance.Proofs.Token.Nonce

/-! # The nonce of every seed

Eight digits are the nonce that they spell, in any mix of cases. Any other seed is digested, also one of eight bytes
that are not all digits. Only a blank seed has no nonce.
-/

namespace TokenGovernance.TokenNonce

variable {seed : String} {n : TokenNonce} {e : Refusal}

theorem isLiteral_iff_digits {s : String} : isLiteral s = true ↔ Hex.Digits 8 s := by
  have hdigits : Hex.Digits 8 s ↔ ∃ octets : Octets 4, Hex.Spells s.toList octets.1 :=
    Hex.digits_iff (n := 4)
  rw [isLiteral_iff, hdigits]
  simp only [Hex.spells_iff_toUpper]
  constructor
  · rintro ⟨n, h⟩
    exact ⟨n.octets, h⟩
  · rintro ⟨octets, h⟩
    exact ⟨⟨octets⟩, h⟩

theorem ne_empty_of_digits {s : String} (h : Hex.Digits 8 s) : s ≠ "" := by
  rintro rfl
  exact absurd h.1 (by decide)

theorem ofHex_eq_ok_iff_spells {s : String} : ofHex s = .ok n ↔ Hex.Spells s.toList n.octets.1 := by
  rw [ofHex_eq_ok, Hex.spells_iff_toUpper]
  rfl

/-! ## The three kinds of seeds -/

theorem ofSeed_of_empty (h : Text.trim seed = "") : ofSeed seed = .error (.invalidArgument "identifier" .empty) := by
  unfold ofSeed
  rw [if_pos h]

theorem ofSeed_of_digits (h : Hex.Digits 8 (Text.trim seed)) :
    ofSeed seed = .ok n ↔ Hex.Spells (Text.trim seed).toList n.octets.1 := by
  unfold ofSeed
  rw [if_neg (ne_empty_of_digits h), if_pos (isLiteral_iff_digits.mpr h), ofHex_eq_ok_iff_spells]

theorem exists_ofSeed_of_digits (h : Hex.Digits 8 (Text.trim seed)) : ∃ n, ofSeed seed = .ok n := by
  obtain ⟨n, hn⟩ := isLiteral_iff.mp (isLiteral_iff_digits.mpr h)
  exact ⟨n, (ofSeed_of_digits h).mpr (Hex.spells_iff_toUpper.mpr hn)⟩

theorem ofSeed_of_text (hne : Text.trim seed ≠ "") (h : ¬ Hex.Digits 8 (Text.trim seed)) :
    ofSeed seed = .ok (digest (Text.trim seed)) := by
  unfold ofSeed
  rw [if_neg hne, if_neg (isLiteral_iff_digits.not.mpr h)]

/-! ## Every seed -/

theorem ofSeed_eq_error :
    ofSeed seed = .error e ↔ Text.trim seed = "" ∧ e = .invalidArgument "identifier" .empty := by
  by_cases hempty : Text.trim seed = ""
  · rw [ofSeed_of_empty hempty, Except.error.injEq, and_iff_right hempty, eq_comm]
  · refine iff_of_false (fun herror => ?_) (fun h => hempty h.1)
    by_cases hdigits : Hex.Digits 8 (Text.trim seed)
    · obtain ⟨n, hn⟩ := exists_ofSeed_of_digits hdigits
      rw [hn] at herror
      cases herror
    · rw [ofSeed_of_text hempty hdigits] at herror
      cases herror

theorem ofSeed_eq_ok : ofSeed seed = .ok n ↔
    (Hex.Digits 8 (Text.trim seed) ∧ Hex.Spells (Text.trim seed).toList n.octets.1) ∨
    (Text.trim seed ≠ "" ∧ ¬ Hex.Digits 8 (Text.trim seed) ∧
      n.octets.1 = (Hmac.sha256 (Text.utf8 "NIP13") (Text.utf8 (Text.trim seed))).1.take 4) := by
  by_cases hempty : Text.trim seed = ""
  · have hdigits : ¬ Hex.Digits 8 (Text.trim seed) := fun h => ne_empty_of_digits h hempty
    rw [ofSeed_of_empty hempty]
    refine iff_of_false nofun ?_
    rintro (⟨h, -⟩ | ⟨hne, -⟩)
    · exact hdigits h
    · exact hne hempty
  · by_cases hdigits : Hex.Digits 8 (Text.trim seed)
    · rw [ofSeed_of_digits hdigits]
      simp [hdigits]
    · rw [ofSeed_of_text hempty hdigits, Except.ok.injEq]
      obtain ⟨octets⟩ := n
      simp [hempty, hdigits, digest, domain, Octets.take, Subtype.ext_iff, eq_comm]

/-- What a seed comes to follows from what is left of it without the blanks around it. If that is nothing, the seed is
refused, and for no other reason. Eight digits are the nonce that they spell, and the nonce of anything else is the
start of its digest. -/
theorem ofSeed_exact (seed : String) :
    (∀ e, ofSeed seed = .error e ↔ Text.trim seed = "" ∧ e = .invalidArgument "identifier" .empty) ∧
    Reason.empty.message = "must not be empty" ∧
    (∀ n, ofSeed seed = .ok n ↔
      (Hex.Digits 8 (Text.trim seed) ∧ Hex.Spells (Text.trim seed).toList n.octets.1) ∨
      (Text.trim seed ≠ "" ∧ ¬ Hex.Digits 8 (Text.trim seed) ∧
        n.octets.1 = (Hmac.sha256 (Text.utf8 "NIP13") (Text.utf8 (Text.trim seed))).1.take 4)) ∧
    (∀ seed', Text.trim seed' = Text.trim seed → ofSeed seed' = ofSeed seed) ∧
    (Hex.Digits 8 (Text.trim seed) → ∃ n, ofSeed seed = .ok n ∧ n.toHex = (Text.trim seed).toUpper ∧
      ∀ seed', (Text.trim seed').toUpper = (Text.trim seed).toUpper → ofSeed seed' = .ok n) := by
  refine ⟨fun e => ofSeed_eq_error, rfl, fun n => ofSeed_eq_ok, fun _ => ofSeed_congr, fun hdigits => ?_⟩
  obtain ⟨n, hn⟩ := exists_ofSeed_of_digits hdigits
  have hupper : (Text.trim seed).toUpper = n.toHex := Hex.spells_iff_toUpper.mp ((ofSeed_of_digits hdigits).mp hn)
  refine ⟨n, hn, hupper.symm, fun seed' hsame => ?_⟩
  have hupper' : (Text.trim seed').toUpper = n.toHex := hsame.trans hupper
  have hdigits' : Hex.Digits 8 (Text.trim seed') :=
    isLiteral_iff_digits.mp (isLiteral_iff.mpr ⟨n, hupper'⟩)
  exact (ofSeed_of_digits hdigits').mpr (Hex.spells_iff_toUpper.mpr hupper')

end TokenGovernance.TokenNonce
