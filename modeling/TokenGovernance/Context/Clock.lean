import TokenGovernance.Context.Parameters

/-! # Deadlines from now

A deadline some hours from now, as long as the calendar reaches that far.
-/

namespace TokenGovernance.Deadline

/-- The first millisecond of the calendar, that of the year -262143. -/
def earliest : Int := -8334601228800000

/-- The last millisecond of the calendar, that of the year 262142. -/
def latest : Int := 8210266876799999

def hour : Int := 3600000

/-- The hours to the deadline where none are given. -/
def defaultHours : Int64 := 2

/-- The deadline some hours from `now`, nothing if the calendar ends before. -/
def inHours? (now : Int) (hours : Int64) : Option Deadline :=
  let millis := now + hour * hours.toInt
  if earliest ≤ millis ∧ millis ≤ latest then some ⟨Int64.ofInt millis⟩ else none

end TokenGovernance.Deadline
