import TokenGovernance.Json.Value

/-! # JSON text

Values as text, either without any blank or indented by two spaces a level.
-/

namespace TokenGovernance.Json

/-- The digit of a value below sixteen, letters in lower case. -/
def escapeDigit (n : Nat) : Char :=
  Nat.digitChar n

def escapeChar (c : Char) : List Char :=
  if c = '"' then ['\\', '"']
  else if c = '\\' then ['\\', '\\']
  else if c = '\x08' then ['\\', 'b']
  else if c = '\t' then ['\\', 't']
  else if c = '\n' then ['\\', 'n']
  else if c = '\x0c' then ['\\', 'f']
  else if c = '\r' then ['\\', 'r']
  else if c.toNat < 0x20 then
    ['\\', 'u', '0', '0', escapeDigit (c.toNat / 16), escapeDigit (c.toNat % 16)]
  else [c]

def stringChars (s : String) : List Char :=
  '"' :: s.toList.flatMap escapeChar ++ ['"']

def Number.chars : Number → List Char
  | .whole n => (if n < 0 then ['-'] else []) ++ Nat.toDigits 10 n.natAbs
  | .double x => x.text.toList

mutual

def chars : Json → List Char
  | .null => ['n', 'u', 'l', 'l']
  | .bool true => ['t', 'r', 'u', 'e']
  | .bool false => ['f', 'a', 'l', 's', 'e']
  | .number n => n.chars
  | .string s => stringChars s
  | .array [] => ['[', ']']
  | .array (item :: rest) => '[' :: chars item ++ itemChars rest ++ [']']
  | .object [] => ['\x7b', '\x7d']
  | .object ((key, value) :: rest) =>
    '\x7b' :: stringChars key ++ ':' :: chars value ++ memberChars rest ++ ['\x7d']

/-- Items behind the first, a comma in front of each. -/
def itemChars : List Json → List Char
  | [] => []
  | item :: rest => ',' :: chars item ++ itemChars rest

/-- Members behind the first, a comma in front of each. -/
def memberChars : List (String × Json) → List Char
  | [] => []
  | (key, value) :: rest => ',' :: stringChars key ++ ':' :: chars value ++ memberChars rest

end

def compact (j : Json) : String :=
  String.ofList j.chars

def lineStart (level : Nat) : List Char :=
  '\n' :: List.replicate (2 * level) ' '

mutual

def indentedChars (level : Nat) : Json → List Char
  | .array (item :: rest) =>
    '[' :: lineStart (level + 1) ++ indentedChars (level + 1) item ++ indentedItems (level + 1) rest ++
      lineStart level ++ [']']
  | .object ((key, value) :: rest) =>
    '\x7b' :: lineStart (level + 1) ++ stringChars key ++ ':' :: ' ' :: indentedChars (level + 1) value ++
      indentedMembers (level + 1) rest ++ lineStart level ++ ['\x7d']
  | .null => chars .null
  | .bool b => chars (.bool b)
  | .number n => chars (.number n)
  | .string s => chars (.string s)
  | .array [] => chars (.array [])
  | .object [] => chars (.object [])

/-- Items behind the first, each on a line of its own. -/
def indentedItems (level : Nat) : List Json → List Char
  | [] => []
  | item :: rest => ',' :: lineStart level ++ indentedChars level item ++ indentedItems level rest

/-- Members behind the first, each on a line of its own. -/
def indentedMembers (level : Nat) : List (String × Json) → List Char
  | [] => []
  | (key, value) :: rest =>
    ',' :: lineStart level ++ stringChars key ++ ':' :: ' ' :: indentedChars level value ++
      indentedMembers level rest

end

/-- The text of a value with every item and member on a line of its own. -/
def indented (j : Json) : String :=
  String.ofList (j.indentedChars 0)

end TokenGovernance.Json
