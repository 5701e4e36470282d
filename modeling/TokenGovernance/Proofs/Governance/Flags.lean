import TokenGovernance.Transaction.Operation
import Mathlib.Logic.Function.Basic

/-! # Flags

The flags of accounts, and the changes with which an account becomes that of an operator and stops being
one.
-/

namespace TokenGovernance

/-- Where the flag of an account stands. -/
structure Place where
  tokenId : TokenId
  key : UInt64
  account : Address
  deriving DecidableEq

/-- The place that a change of a flag writes to. -/
def AddressRestriction.place (r : AddressRestriction) : Place :=
  ⟨r.tokenId, r.key, r.target⟩

/-- The flags that were recorded. -/
abbrev Flags :=
  Place → Option UInt64

namespace Flags

variable {f : Flags} {r : AddressRestriction}

/-- The flags after the same value was written to places. -/
def write (f : Flags) (places : List Place) (value : UInt64) : Flags :=
  fun p => if p ∈ places then some value else f p

theorem write_nil (value : UInt64) : f.write [] value = f := by
  funext x
  simp [write]

theorem write_cons (p : Place) (places : List Place) (value : UInt64) :
    f.write (p :: places) value = write (Function.update f p (some value)) places value := by
  funext x
  unfold write
  by_cases hx : x ∈ places
  · simp [hx]
  · by_cases hp : x = p
    · simp [hp]
    · simp [hx, hp]

/-- The previous value of a change is the flag that was recorded, and the mark of none exactly when none
was. -/
def Confirms (f : Flags) (r : AddressRestriction) : Prop :=
  r.previousValue = (f r.place).getD Operation.unset ∧ (r.previousValue = Operation.unset ↔ f r.place = none)

theorem confirms_of_unset (h : r.previousValue = Operation.unset) : f.Confirms r ↔ f r.place = none := by
  unfold Confirms
  constructor
  · rintro ⟨-, hnone⟩
    exact hnone.mp h
  · intro hnone
    rw [hnone, h]
    simp

theorem confirms_of_set (h : r.previousValue ≠ Operation.unset) :
    f.Confirms r ↔ f r.place = some r.previousValue := by
  unfold Confirms
  constructor
  · rintro ⟨hvalue, hnone⟩
    cases hflag : f r.place with
    | none => exact absurd (hnone.mpr hflag) h
    | some value =>
      rw [hflag, Option.getD_some] at hvalue
      rw [hvalue]
  · intro hflag
    rw [hflag]
    simp [h]

end Flags

/-! ## Roles -/

/-- Where the role of an account stands. -/
def Place.role (token : TokenId) (account : Address) : Place :=
  ⟨token, restrictionKey "User_Role", account⟩

theorem Place.role_injective (token : TokenId) : Function.Injective (role token) := by
  intro x y h
  exact (Place.mk.inj h).2.2

/-- The change with which an account becomes that of an operator. -/
def enrolment (token : TokenId) (account : Address) : AddressRestriction :=
  ⟨token, restrictionKey "User_Role", account, 0xFFFFFFFFFFFFFFFF, 3⟩

/-- The change with which the account of an operator becomes that of a guest. -/
def dismissal (token : TokenId) (account : Address) : AddressRestriction :=
  ⟨token, restrictionKey "User_Role", account, 3, 1⟩

theorem Flags.confirms_dismissal {f : Flags} {token : TokenId} {account : Address} :
    f.Confirms (dismissal token account) ↔ f (.role token account) = some 3 := by
  have hset : (dismissal token account).previousValue ≠ Operation.unset := by
    change (3 : UInt64) ≠ 0xFFFFFFFFFFFFFFFF
    decide
  rw [confirms_of_set hset]
  rfl

end TokenGovernance
