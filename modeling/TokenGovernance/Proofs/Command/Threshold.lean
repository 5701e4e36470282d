import TokenGovernance.Command.Threshold
import TokenGovernance.Proofs.Outcome

/-! # Thresholds in integers

A threshold is one less than the number of operators, and a delta is the difference of two thresholds:
whenever either is given, no arithmetic has wrapped around.
-/

namespace TokenGovernance.Threshold

open Outcome

theorem ofCount_eq_ok {count : Nat} {threshold : UInt8} :
    ofCount count = .ok threshold ↔ 2 ≤ count ∧ count ≤ 256 ∧ threshold.toNat = count - 1 := by
  unfold ofCount
  simp only [refuse_eq_ok, require_eq_ok, Nat.not_lt, Except.ok.injEq]
  unfold Limits.minimumOperators UInt8.size
  constructor
  · rintro ⟨htwo, hsize, rfl⟩
    refine ⟨htwo, by omega, ?_⟩
    rw [UInt8.toNat_ofNat', Nat.mod_eq_of_lt hsize]
  · rintro ⟨htwo, hmax, h⟩
    refine ⟨htwo, by omega, ?_⟩
    rw [← h, UInt8.ofNat_toNat]

theorem delta_eq_ok {current : UInt8} {count : Nat} {d : Int8} :
    delta current count = .ok d ↔
      2 ≤ count ∧ count ≤ 256 ∧ (current.toNat : Int) + d.toInt = (count : Int) - 1 := by
  unfold delta
  simp only [bind_eq_ok, ofCount_eq_ok, throw_eq, pure_eq, require_eq_ok, Except.ok.injEq]
  constructor
  · rintro ⟨wanted, ⟨htwo, hmax, hwanted⟩, hrange, rfl⟩
    refine ⟨htwo, hmax, ?_⟩
    rw [Int8.toInt_ofInt_of_le (by omega) (by omega)]
    omega
  · rintro ⟨htwo, hmax, h⟩
    have hlow := d.le_toInt
    have hhigh := d.toInt_lt
    have hsum : ((count - 1 : Nat) : Int) - current.toNat = d.toInt := by omega
    have hwanted : (UInt8.ofNat (count - 1)).toNat = count - 1 := by
      rw [UInt8.toNat_ofNat', Nat.mod_eq_of_lt (by omega)]
    refine ⟨UInt8.ofNat (count - 1), ⟨htwo, hmax, hwanted⟩, ?_, ?_⟩
    · rw [hwanted, hsum]
      omega
    · rw [hwanted, hsum, Int8.ofInt_toInt]

/-- What takes the threshold `current` to that of `count` operators, also where no signed byte holds it. -/
def step (current : UInt8) (count : Nat) : Int :=
  count - 1 - current.toNat

theorem delta_of_lt_two {count : Nat} (h : count < 2) (current : UInt8) :
    delta current count = .error (.tooFewOperators count) := by
  unfold delta ofCount Limits.minimumOperators
  rw [if_pos h]
  rfl

theorem delta_of_two_le {count : Nat} (h : 2 ≤ count) (current : UInt8) :
    delta current count =
      if 256 < count then .error (.invalidArgument "operators" .thresholdRange)
      else if step current count < -128 ∨ 127 < step current count then
        .error (.failed (.thresholdDelta (step current count)))
      else .ok (.ofInt (step current count)) := by
  unfold delta
  by_cases hmax : 256 < count
  · have hrange : ofCount count = .error (.invalidArgument "operators" .thresholdRange) := by
      unfold ofCount Limits.minimumOperators UInt8.size
      rw [if_neg (by omega), if_neg (by omega)]
    rw [hrange, if_pos hmax]
    rfl
  · have hwanted : (UInt8.ofNat (count - 1)).toNat = count - 1 := by
      rw [UInt8.toNat_ofNat', Nat.mod_eq_of_lt (by omega)]
    have hstep : ((count - 1 : Nat) : Int) - current.toNat = step current count := by
      unfold step
      omega
    rw [ofCount_eq_ok.mpr ⟨h, by omega, hwanted⟩, ok_bind, hwanted, hstep, if_neg hmax]
    split
    · rw [if_neg (by omega)]
      rfl
    · rw [if_pos (by omega)]
      rfl

theorem toInt_toInt8 {threshold : UInt8} (h : threshold.toNat < 128) :
    threshold.toInt8.toInt = threshold.toNat := by
  have h' : threshold.toBitVec.toNat < 128 := h
  change threshold.toBitVec.toInt = threshold.toNat
  rw [BitVec.toInt_eq_toNat_of_lt (by omega)]
  rfl

end TokenGovernance.Threshold
