import TokenGovernance.Refusal

/-! # Thresholds

The approvals of all operators but one are required.
-/

namespace TokenGovernance.Threshold

/-- The approvals required of `count` operators. -/
def ofCount (count : Nat) : Except Refusal UInt8 :=
  if count < Limits.minimumOperators then .error (.tooFewOperators count)
  else if count - 1 < UInt8.size then .ok (UInt8.ofNat (count - 1))
  else .error (.invalidArgument "operators" .thresholdRange)

/-- What takes the threshold `current` to that of `count` operators. -/
def delta (current : UInt8) (count : Nat) : Except Refusal Int8 := do
  let wanted ← ofCount count
  let delta : Int := wanted.toNat - current.toNat
  if -128 ≤ delta ∧ delta < 128 then return Int8.ofInt delta
  else throw (.failed (.thresholdDelta delta))

end TokenGovernance.Threshold
