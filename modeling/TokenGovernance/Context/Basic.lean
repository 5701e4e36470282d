import TokenGovernance.Context.Parameters
import TokenGovernance.Refusal

/-! # Contexts

What one execution of a command works with: the network, the revision of the standard, the account
that acts, and the arguments. An argument is written once, so that it cannot change between the
phases of a command.
-/

namespace TokenGovernance

structure Context where
  revision : UInt32
  network : NetworkSettings
  actor : PublicAccount
  parameters : Parameters
  arguments : List (String × Json)

namespace Context

def argument? (c : Context) (name : String) : Option Json :=
  Keyed.find? name c.arguments

/-- Writes an argument, unless its name was written before, if only with null. -/
def set (c : Context) (name : String) (value : Json) : Except Refusal Context :=
  if (c.argument? name).isSome then .error (.invalidArgument name .alreadySet)
  else .ok { c with arguments := Keyed.insert name value c.arguments }

def setAll (c : Context) (arguments : List (String × Json)) : Except Refusal Context :=
  arguments.foldlM (fun c (name, value) => c.set name value) c

/-- Whether an argument is there. Null counts as absent. -/
def has (c : Context) (name : String) : Bool :=
  (c.argument? name).any fun value => !value.isNull

/-- The value of an argument, or `absent` when it is not there. -/
def get {α : Type} (c : Context) (d : Json.Decoder α) (name : String) (absent : α) : Except Refusal α :=
  match c.argument? name with
  | none | some .null => .ok absent
  | some value =>
    (Json.decode d value).mapError fun fault => .invalidArgument name (.undecodable fault.flaw)

end Context
end TokenGovernance
