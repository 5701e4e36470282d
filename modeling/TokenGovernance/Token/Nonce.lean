import TokenGovernance.Digest.Hmac
import TokenGovernance.Identity.Codec

/-! # Nonces

The four bytes that tell the tokens of one owner apart. They follow from a seed, which either spells
them or is digested.
-/

namespace TokenGovernance

structure TokenNonce where
  octets : Octets 4
  deriving DecidableEq

namespace TokenNonce

def toHex (n : TokenNonce) : String :=
  Hex.encode n.octets.1

/-- Reads a nonce, which has no blanks around it. -/
def ofHex (s : String) : Except Refusal TokenNonce :=
  match Hex.decode s with
  | .error fault => .error (.invalidArgument "identifier" (.nonceHex fault))
  | .ok bytes =>
    match Octets.ofList? 4 bytes with
    | some o => .ok ⟨o⟩
    | none => .error (.invalidArgument "identifier" .nonceSize)

def isDigit (c : Char) : Bool :=
  ('0' ≤ c && c ≤ '9') || ('a' ≤ c && c ≤ 'f') || ('A' ≤ c && c ≤ 'F')

/-- Whether a seed spells the nonce: eight digits of either case. -/
def isLiteral (seed : String) : Bool :=
  Text.utf8Length seed == 8 && seed.toList.all isDigit

/-- The key of the digest of seeds. -/
def domain : List UInt8 :=
  Text.utf8 "NIP13"

/-- The nonce of a seed that is digested. -/
def digest (seed : String) : TokenNonce :=
  ⟨(Hmac.sha256 domain (Text.utf8 seed)).take 4 (by omega)⟩

/-- The nonce of a seed. Blanks around the seed do not matter. -/
def ofSeed (seed : String) : Except Refusal TokenNonce :=
  let seed := Text.trim seed
  if seed = "" then .error (.invalidArgument "identifier" .empty)
  else if isLiteral seed then ofHex seed
  else .ok (digest seed)

end TokenNonce

instance : Wire TokenNonce where
  toJson n := .string n.toHex
  decoder := spelled TokenNonce.ofHex

end TokenGovernance
