import TokenGovernance.Json.Wire
import TokenGovernance.Refusal

/-! # Spelling of keys and addresses

Keys and addresses are read from digits of either case with blanks around them, and written in upper
case.
-/

namespace TokenGovernance

/-- Reads digits with blanks around them as `n` bytes of an argument. -/
def readOctets (argument : String) (n : Nat) (s : String) : Except Refusal (Octets n) :=
  match Hex.decode (Text.trim s) with
  | .error fault => .error (.invalidArgument argument (.hex fault))
  | .ok bytes =>
    match Octets.ofList? n bytes with
    | some o => .ok o
    | none => .error (.invalidArgument argument (.size n bytes.length))

/-- Reads a value that is spelled as a string. -/
def spelled {α : Type} (read : String → Except Refusal α) : Json.Decoder α :=
  Json.Decoder.string.refine fun s => (read s).mapError Refusal.message

def PublicKey.ofHex (s : String) : Except Refusal PublicKey :=
  (readOctets "public_key" 32 s).map PublicKey.mk

/-- Reads an address and checks it. -/
def Address.ofHex (s : String) : Except Refusal Address := do
  let octets ← readOctets "address" 24 s
  if h : isValid octets = true then return ⟨octets, h⟩
  else throw (.invalidArgument "address" .checksum)

/-- The account of a key and an address, if the address is that of the key on its network. -/
def PublicAccount.ofPair (key : PublicKey) (address : Address) : Except Refusal PublicAccount :=
  match address.network? with
  | none => .error (.invalidArgument "address" .unknownNetwork)
  | some network =>
    let account : PublicAccount := ⟨key, network⟩
    if account.address = address then .ok account
    else .error (.invalidArgument "address" (.foreignAddress address key))

instance : Wire Network where
  toJson n := .string n.name
  decoder := .variant (Network.all.map Network.name) Network.ofName?

instance : Wire PublicKey where
  toJson k := .string k.toHex
  decoder := spelled PublicKey.ofHex

instance : Wire Address where
  toJson a := .string a.toHex
  decoder := spelled Address.ofHex

instance : Wire PublicAccount where
  toJson a := .object [("address", toJson a.address), ("public_key", toJson a.key)]
  decoder :=
    ((Prod.mk <$> Json.Record.field "public_key" (Wire.decoder (α := PublicKey))
      <*> Json.Record.field "address" (Wire.decoder (α := Address))).decoder "struct PublicAccountRepr").refine
        fun (key, address) => (PublicAccount.ofPair key address).mapError Refusal.message

end TokenGovernance
