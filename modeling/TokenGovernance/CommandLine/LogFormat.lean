import TokenGovernance.Text.Blank

/-! # Formats of the log -/

namespace TokenGovernance.CommandLine

inductive LogFormat
  | compact
  | pretty
  | json
  deriving DecidableEq, Repr

namespace LogFormat

def all : List LogFormat :=
  [.compact, .pretty, .json]

def name : LogFormat → String
  | .compact => "compact"
  | .pretty => "pretty"
  | .json => "json"

/-- The format a user names: blanks around the name and the case of its letters do not matter. -/
def ofInput? (s : String) : Option LogFormat :=
  let s := (Text.trim s).toLower
  all.find? (·.name == s)

end LogFormat
end TokenGovernance.CommandLine
