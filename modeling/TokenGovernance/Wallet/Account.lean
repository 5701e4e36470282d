import TokenGovernance.Refusal
import TokenGovernance.Wallet.ExtendedKey

/-! # Accounts with their secrets

What signs for an account: a secret key, given as it is, as the start of a seed, or as words and a path.
-/

namespace TokenGovernance.Wallet

/-- An account and its secret key. -/
structure Account where
  secret : Octets 32
  account : PublicAccount
  deriving DecidableEq

namespace Account

/-- The account of a secret key on a network. -/
def ofSecret (secret : Octets 32) (network : Network) : Except Refusal Account :=
  let k := bigEndian secret.1
  if Secp256k1.isSecret k then .ok ⟨secret, ⟨⟨Secp256k1.publicX k⟩, network⟩⟩
  else .error (.invalidArgument "secret_key" .secret)

/-- The account of the first half of a seed. -/
def ofSeed (seed : Octets 64) (network : Network) : Except Refusal Account :=
  ofSecret seed.firstHalf network

/-- The account at a path in the tree of keys of words and a passphrase. The path is looked at first. -/
def ofMnemonic (words passphrase path : String) (network : Network) : Except Refusal Account := do
  let path ← (AccountPath.parse path).mapError .invalidPath
  let mnemonic ← (Mnemonic.parse words).mapError fun fault => .invalidArgument "mnemonic" (.mnemonic fault)
  let root := ExtendedKey.root? (mnemonic.seed passphrase).1
  match root.bind fun key => key.descend? (path.steps.map (·.index)) with
  | some key => ofSecret (toBigEndian 32 key.secret) network
  | none => throw (.failed .barrenSeed)

/-- The token account with a number in the tree of keys of words and a passphrase. -/
def ofMnemonicAt (words passphrase : String) (index : UInt32) (network : Network) : Except Refusal Account :=
  ofMnemonic words passphrase (accountPathText index) network

end Account
end TokenGovernance.Wallet
