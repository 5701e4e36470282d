import TokenGovernance.Wallet.Words
import TokenGovernance.Text.Decomposition
import TokenGovernance.Digest.Hmac

/-! # Mnemonics

Secrets spelled as words. A mnemonic of 12, 15, 18, 21 or 24 words holds 11 bits in each, and the last
bits of all, one for every three words, are the first bits of the digest of the others.
-/

namespace TokenGovernance.Wallet

inductive MnemonicFault
  | wordCount (n : Nat)
  | unknownWord (position : Nat)
  | checksum
  deriving DecidableEq, Repr

def MnemonicFault.message : MnemonicFault → String
  | .wordCount n =>
    "mnemonic has an invalid word count: " ++ toString n ++ ". Word count must be 12, 15, 18, 21, or 24"
  | .unknownWord position => "mnemonic contains an unknown word (word " ++ toString position ++ ")"
  | .checksum => "the mnemonic has an invalid checksum"

/-- The word numbers of a mnemonic, in order. -/
structure Mnemonic where
  numbers : List Nat

namespace Mnemonic

def wordNumber? (word : String) : Option Nat :=
  wordList.findIdx? (· == word)

/-- The numbers of words, the first of which stands at a position. -/
def wordNumbers (position : Nat) : List String → Except MnemonicFault (List Nat)
  | [] => .ok []
  | word :: rest =>
    match wordNumber? word with
    | none => .error (.unknownWord position)
    | some n => do
      let more ← wordNumbers (position + 1) rest
      return n :: more

/-- Whether the last bits are those of the digest of the others. -/
def hasChecksum (numbers : List Nat) : Bool :=
  let all := numbers.foldl (fun bits n => 2048 * bits + n) 0
  let count := numbers.length / 3
  let entropy := (toBigEndian (4 * count) (all / Nat.pow 2 count)).1
  bigEndian ((Sha256.hash entropy).1.take 1) / Nat.pow 2 (8 - count) == all % Nat.pow 2 count

/-- Reads words between blanks. A first word that is unknown is reported before the count, any other
behind it. -/
def parse (s : String) : Except MnemonicFault Mnemonic :=
  match Text.words s with
  | [] => .error (.wordCount 0)
  | first :: rest =>
    let words := first :: rest
    if (wordNumber? first).isNone then .error (.unknownWord 0)
    else if words.length ∈ [12, 15, 18, 21, 24] then
      match wordNumbers 0 words with
      | .error f => .error f
      | .ok numbers => if hasChecksum numbers then .ok ⟨numbers⟩ else .error .checksum
    else .error (.wordCount words.length)

def text (m : Mnemonic) : String :=
  " ".intercalate (m.numbers.map fun n => wordList.getD n "")

/-- The seed of a tree of keys: the words and a passphrase, stretched 2048 times. -/
def seed (m : Mnemonic) (passphrase : String) : Octets 64 :=
  Hmac.stretch (Text.utf8 m.text) (Text.utf8 ("mnemonic" ++ Text.decompose passphrase)) 2048

end Mnemonic
end TokenGovernance.Wallet
