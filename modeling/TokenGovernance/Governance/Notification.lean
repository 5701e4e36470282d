import TokenGovernance.Digest.Blake3
import TokenGovernance.Token.Identifier

/-! # Notifications

The message that announces an action on a token, its digest, and the proof that the message was
published.
-/

namespace TokenGovernance

/-- An action on a token under a revision of the standard. -/
structure Notification where
  revision : UInt32
  action : String
  subject : TokenId
  deriving DecidableEq

def messageDigest (message : String) : String :=
  Hex.encodeLower (Blake3.hash (Text.utf8 message)).1

/-- A notification with the digest that is claimed for its message. -/
structure NotificationProof where
  notification : Notification
  digest : String
  deriving DecidableEq

namespace Notification

def message (n : Notification) : String :=
  "NIP13(v" ++ toString n.revision ++ "):" ++ n.action ++ ":" ++ n.subject.toHex

def digest (n : Notification) : String :=
  messageDigest n.message

def proof (n : Notification) : NotificationProof :=
  ⟨n, n.digest⟩

end Notification

def NotificationProof.verify (p : NotificationProof) (message : String) : Bool :=
  messageDigest message == p.digest

/-- A proof, and the transaction and height that its message was published with. -/
structure PublicationProof where
  proof : NotificationProof
  transactionHash : String
  height : UInt64
  deriving DecidableEq

/-- The proof of a publication. The hash of the transaction is 32 bytes in digits of either case. -/
def PublicationProof.ofHash (proof : NotificationProof) (hash : String) (height : UInt64) :
    Except Refusal PublicationProof :=
  let hash := hash.toUpper
  match Hex.decode hash with
  | .ok bytes =>
    if bytes.length = 32 then .ok ⟨proof, hash, height⟩
    else .error (.invalidArgument "transaction_hash" .transactionHash)
  | .error _ => .error (.invalidArgument "transaction_hash" .transactionHash)

instance : Wire Notification where
  toJson n := .object [("action", toJson n.action), ("revision", toJson n.revision),
    ("subject", toJson n.subject)]
  decoder :=
    (Notification.mk <$> Json.Record.field "revision" Wire.decoder
      <*> Json.Record.field "action" Wire.decoder
      <*> Json.Record.field "subject" Wire.decoder).decoder "struct Notification"

instance : Wire NotificationProof where
  toJson p := .object [("digest", toJson p.digest), ("notification", toJson p.notification)]
  decoder :=
    (NotificationProof.mk <$> Json.Record.field "notification" Wire.decoder
      <*> Json.Record.field "digest" Wire.decoder).decoder "struct NotificationProof"

instance : Wire PublicationProof where
  toJson p := .object [("height", toJson p.height), ("proof", toJson p.proof),
    ("transaction_hash", toJson p.transactionHash)]
  decoder :=
    (PublicationProof.mk <$> Json.Record.field "proof" Wire.decoder
      <*> Json.Record.field "transaction_hash" Wire.decoder
      <*> Json.Record.field "height" Wire.decoder).decoder "struct PublicationProof"

end TokenGovernance
