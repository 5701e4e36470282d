import TokenGovernance.Refusal

/-! # Token names

A token name is one to three segments with dots between them.
-/

namespace TokenGovernance.TokenName

/-- The parts of a text between its dots. A text without a dot is one part. -/
def split (s : String) : List String :=
  (s.toList.splitOn '.').map String.ofList

/-- Parts with dots between them. -/
def join (parts : List String) : String :=
  ".".intercalate parts

def isInitial (c : Char) : Bool :=
  ('a' ≤ c && c ≤ 'z') || ('0' ≤ c && c ≤ '9')

def isMember (c : Char) : Bool :=
  isInitial c || c == '_' || c == '-'

/-- Whether a text is a segment of a name. -/
def isSegment (s : String) : Bool :=
  match s.toList with
  | [] => false
  | c :: rest => isInitial c && rest.all isMember && Text.utf8Length s ≤ Limits.maximumNameLength

def segments (name : String) : Except Refusal (List String) :=
  let parts := split name
  if Limits.maximumDepth < parts.length then .error (.invalidArgument "name" (.levels parts.length))
  else
    match parts.find? fun s => !isSegment s with
    | some s => .error (.invalidArgument "name" (.segment s))
    | none => .ok parts

end TokenGovernance.TokenName
