/-! # Limits

The numbers and names that the governed token standard fixes.
-/

namespace TokenGovernance.Limits

/-- The name of the standard. -/
def standard : String := "NIP13"

/-- The revision of the standard, named in every notification. -/
def revision : UInt32 := 1

/-- The fewest operators of a token account. -/
def minimumOperators : Nat := 2

/-- The most operators of a token account. -/
def maximumOperators : Nat := 25

/-- The most segments of a token name. -/
def maximumDepth : Nat := 3

/-- The most bytes of a segment. -/
def maximumNameLength : Nat := 64

/-- Blocks a namespace is registered for. -/
def namespaceDuration : UInt64 := 2010240

/-- Blocks a token is defined for. -/
def tokenDuration : UInt64 := 2010240

/-- Decimal places of a token. -/
def tokenDivisibility : UInt8 := 0

/-- The supply of a token that is created without one. -/
def defaultSupply : UInt64 := 1

/-- The name of the restriction key that roles are stored under. -/
def roleKey : String := "User_Role"

end TokenGovernance.Limits
