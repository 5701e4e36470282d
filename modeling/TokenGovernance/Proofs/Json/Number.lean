import TokenGovernance.Json.Printer
import TokenGovernance.Proofs.Token.Nonce

/-! # Seeds that are numbers

The text of a number is never blank, so that every number is the seed of a token.
-/

namespace TokenGovernance

open Text

theorem isBlank_of_mem_toDigits {n : Nat} {c : Char} (h : c ∈ Nat.toDigits 10 n) : isBlank c = false := by
  have hdigit := Nat.isDigit_of_mem_toDigits (by decide) (by decide) h
  apply TokenNonce.isBlank_of_isDigit
  unfold TokenNonce.isDigit
  rw [Bool.or_eq_true, Bool.or_eq_true]
  exact .inl (.inl hdigit)

theorem Binary64.Layout.exists_visible (l : Layout) (s : Decimal.Scaled) :
    ∃ c ∈ (l.write s).toList, isBlank c = false := by
  unfold write
  dsimp only
  split
  · split
    · exact ⟨'0', by simp, by decide⟩
    · exact ⟨'.', by simp, by decide⟩
  · exact ⟨'e', by simp, by decide⟩

theorem Binary64.exists_visible (x : Binary64) : ∃ c ∈ x.text.toList, isBlank c = false := by
  unfold text
  rw [String.toList_append]
  cases x.magnitude? with
  | none => exact ⟨'0', List.mem_append_right _ (by decide), by decide⟩
  | some s =>
    obtain ⟨c, hc, hvisible⟩ := layout.exists_visible s
    exact ⟨c, List.mem_append_right _ hc, hvisible⟩

theorem Json.Number.exists_visible (n : Number) : ∃ c ∈ n.chars, isBlank c = false := by
  cases n with
  | whole n =>
    obtain ⟨c, hc⟩ := List.exists_mem_of_ne_nil _ (Nat.toDigits_ne_nil (n := n.natAbs) (b := 10))
    exact ⟨c, List.mem_append_right _ hc, isBlank_of_mem_toDigits hc⟩
  | double x => exact x.exists_visible

end TokenGovernance
