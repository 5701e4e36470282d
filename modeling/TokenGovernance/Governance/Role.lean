import TokenGovernance.Json.Wire

/-! # Roles

The scale of roles that an account can hold for a token, and the numbers that stand for them on the
ledger.
-/

namespace TokenGovernance

inductive Role
  | guest
  | holder
  | operator
  deriving DecidableEq, Repr

namespace Role

def all : List Role :=
  [.guest, .holder, .operator]

def name : Role → String
  | .guest => "guest"
  | .holder => "holder"
  | .operator => "operator"

def ofName? (s : String) : Option Role :=
  all.find? (·.name == s)

def value : Role → UInt64
  | .guest => 1
  | .holder => 2
  | .operator => 3

def ofValue? (n : UInt64) : Option Role :=
  all.find? (·.value == n)

/-- Roles in the order of their numbers. -/
instance : Ord Role :=
  ⟨fun a b => compare a.value b.value⟩

@[simp] theorem ofName?_name (r : Role) : ofName? r.name = some r := by
  cases r <;> rfl

@[simp] theorem ofValue?_value (r : Role) : ofValue? r.value = some r := by
  cases r <;> rfl

end Role

instance : Wire Role where
  toJson r := .string r.name
  decoder := .variant (Role.all.map Role.name) Role.ofName?

end TokenGovernance
