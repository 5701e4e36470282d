import TokenGovernance.Text.Blank
import TokenGovernance.Text.Numeral

/-! # Derivation paths

Paths in a tree of keys, such as `m/44'/4343'/7'/0'/0'`, and the accounts they lead to. An account path
has five hardened steps, the first two of them fixed.
-/

namespace TokenGovernance.Wallet

/-- One step down the tree. -/
structure Step where
  index : Nat
  hardened : Bool
  deriving DecidableEq, Repr

/-- Steps from the root. -/
abbrev Path := List Step

def purpose : Nat := 44

def coinType : Nat := 4343

def pathDepth : Nat := 5

/-- Indexes are below this bound. -/
def indexBound : Nat := 0x80000000

/-- The text of a step; an apostrophe marks a hardened one. -/
def Step.text (s : Step) : String :=
  toString s.index ++ (if s.hardened then "'" else "")

/-- The text of a path, without the mark of the root. -/
def Path.text (p : Path) : String :=
  "/".intercalate (p.map Step.text)

inductive StepFault
  | format
  | index (n : Nat)
  deriving DecidableEq, Repr

def StepFault.message : StepFault → String
  | .format => "invalid child number format"
  | .index n => "child number " ++ toString n ++ " is invalid (not within [0, 2^31 - 1])"

inductive PathFault
  | malformed (input : String) (cause : StepFault)
  | depth (path : Path)
  | notHardened (path : Path)
  | elsewhere (path : Path)
  deriving DecidableEq, Repr

def PathFault.message : PathFault → String
  | .malformed input cause => input ++ ": " ++ cause.message
  | .depth path => path.text ++ ": expected depth " ++ toString pathDepth ++ ", got " ++ toString path.length
  | .notHardened path => path.text ++ ": all levels must be hardened"
  | .elsewhere path =>
    path.text ++ ": expected prefix m/" ++ toString purpose ++ "'/" ++ toString coinType ++ "'"

/-- Reads a step. An apostrophe or the letter `h` at its end marks it as hardened. -/
def Step.parse (cs : List Char) : Except StepFault Step :=
  let hardened := cs.getLast? = some '\'' ∨ cs.getLast? = some 'h'
  match Numeral.parseChars 10 UInt32.size (if hardened then cs.dropLast else cs) with
  | .error _ => .error .format
  | .ok n => if n < indexBound then .ok ⟨n, hardened⟩ else .error (.index n)

/-- Reads a path. The mark of the root may be left out; alone it is the path without steps. -/
def Path.parse (cs : List Char) : Except StepFault Path :=
  match cs with
  | [] | ['m'] | ['m', '/'] => .ok []
  | 'm' :: '/' :: rest => (rest.splitOn '/').mapM Step.parse
  | cs => (cs.splitOn '/').mapM Step.parse

/-- The three free indexes of an account path. -/
structure AccountPath where
  account : Nat
  change : Nat
  address : Nat
  deriving DecidableEq, Repr

namespace AccountPath

def steps (p : AccountPath) : Path :=
  [purpose, coinType, p.account, p.change, p.address].map fun n => ⟨n, true⟩

def text (p : AccountPath) : String :=
  p.steps.text

/-- The account path with the given steps. Depth is looked at first, then hardening, then the fixed
steps. -/
def ofSteps (path : Path) : Except PathFault AccountPath :=
  match path with
  | [first, second, account, change, address] =>
    if path.all (·.hardened) then
      if first.index = purpose ∧ second.index = coinType then
        .ok ⟨account.index, change.index, address.index⟩
      else .error (.elsewhere path)
    else .error (.notHardened path)
  | _ => .error (.depth path)

def parse (s : String) : Except PathFault AccountPath :=
  match Path.parse (Text.trimChars s.toList) with
  | .error cause => .error (.malformed s cause)
  | .ok path => ofSteps path

end AccountPath

/-- The text of the path of the account with a number. -/
def accountPathText (index : UInt32) : String :=
  "m/" ++ (AccountPath.mk index.toNat 0 0).text

end TokenGovernance.Wallet
