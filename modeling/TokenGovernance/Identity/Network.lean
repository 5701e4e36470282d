import TokenGovernance.Text.Blank

/-! # Networks

The four networks, their names, and the byte that every address on them starts with.
-/

namespace TokenGovernance

inductive Network
  | mainnet
  | testnet
  | privateNet
  | privateTest
  deriving DecidableEq, Repr

namespace Network

def all : List Network :=
  [.mainnet, .testnet, .privateNet, .privateTest]

def name : Network → String
  | .mainnet => "mainnet"
  | .testnet => "testnet"
  | .privateNet => "private"
  | .privateTest => "private-test"

def ofName? (s : String) : Option Network :=
  all.find? (·.name == s)

/-- The network a user means: blanks around the name and the case of its letters do not matter, and
there are short forms. -/
def ofInput? (s : String) : Option Network :=
  let s := (Text.trim s).toLower
  if s = "main" then some .mainnet
  else if s = "test" then some .testnet
  else if s = "private_test" then some .privateTest
  else ofName? s

/-- The first byte of every address on a network. -/
def byte : Network → UInt8
  | .mainnet => 0x68
  | .testnet => 0x98
  | .privateNet => 0x78
  | .privateTest => 0xA8

def ofByte? (b : UInt8) : Option Network :=
  all.find? (·.byte == b)

@[simp] theorem ofByte?_byte (n : Network) : ofByte? n.byte = some n := by
  cases n <;> rfl

@[simp] theorem ofName?_name (n : Network) : ofName? n.name = some n := by
  cases n <;> rfl

end Network
end TokenGovernance
