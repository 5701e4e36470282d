import TokenGovernance.Decimal.Binary64

/-! # JSON values

Numbers are whole numbers of at most 64 bits or double numbers, and the members of an object stand in
the order of their keys, each key once.
-/

namespace TokenGovernance

/-- A JSON number. Whole numbers run from `-2 ^ 63` to `2 ^ 64 - 1`. -/
inductive Json.Number
  | whole (value : Int)
  | double (value : Binary64)
  deriving DecidableEq, Repr

inductive Json
  | null
  | bool (value : Bool)
  | number (value : Json.Number)
  | string (value : String)
  | array (items : List Json)
  | object (members : List (String × Json))
  deriving Repr, Inhabited

namespace Json

def nat (n : Nat) : Json :=
  .number (.whole n)

def int (n : Int) : Json :=
  .number (.whole n)

/-- A value that may be absent, absence being null. -/
def ofOption {α : Type} (f : α → Json) : Option α → Json
  | none => .null
  | some a => f a

def isNull : Json → Bool
  | .null => true
  | _ => false

end Json
end TokenGovernance
