import TokenGovernance.Governance.Notification
import TokenGovernance.Proofs.Transaction.Codec

/-! # Messages and their proofs

A message tells the revision, the action and the subject of its notification. A proof that was made of a
notification verifies the message of that notification alone, as far as the digests of messages differ. A proof that
was read holds its notification and its digest as two unrelated things.
-/

namespace TokenGovernance

open LawfulWire

/-! ## Messages -/

theorem TokenId.toHex_inj {id id' : TokenId} (h : id.toHex = id'.toHex) : id = id' := by
  have hread : ofHex id.toHex = .ok id' := by rw [h, ofHex_toHex]
  exact Except.ok.inj ((ofHex_toHex id).symm.trans hread)

theorem TokenId.length_toHex (id : TokenId) : id.toHex.toList.length = 16 :=
  (Hexadecimal.toList_write id.value).1

theorem bracket_notMem_toDigits (n : Nat) : ')' ∉ Nat.toDigits 10 n := by
  intro h
  exact absurd (Nat.isDigit_of_mem_toDigits (by decide) (by decide) h) (by decide)

theorem eq_of_append_cons_eq {α : Type} {a : α} {front front' back back' : List α} (h : a ∉ front) (h' : a ∉ front')
    (heq : front ++ a :: back = front' ++ a :: back') : front = front' ∧ back = back' := by
  induction front generalizing front' with
  | nil =>
    cases front' with
    | nil => exact ⟨rfl, (List.cons.inj heq).2⟩
    | cons b rest' =>
      obtain ⟨rfl, -⟩ := List.cons.inj heq
      exact absurd List.mem_cons_self h'
  | cons b rest ih =>
    cases front' with
    | nil =>
      obtain ⟨rfl, -⟩ := List.cons.inj heq
      exact absurd List.mem_cons_self h
    | cons b' rest' =>
      obtain ⟨rfl, hrest⟩ := List.cons.inj heq
      obtain ⟨rfl, hback⟩ := ih (List.not_mem_of_not_mem_cons h) (List.not_mem_of_not_mem_cons h') hrest
      exact ⟨rfl, hback⟩

theorem toDigits_inj {m n : Nat} (h : Nat.toDigits 10 m = Nat.toDigits 10 n) : m = n := by
  have hvalue := congrArg (fun digits => Nat.ofDigitChars 10 digits 0) h
  rwa [Nat.ofDigitChars_ten_toDigits, Nat.ofDigitChars_ten_toDigits] at hvalue

namespace Notification

variable {n n' : Notification}

theorem toList_message (n : Notification) :
    n.message.toList = "NIP13(v".toList ++
      (Nat.toDigits 10 n.revision.toNat ++ ')' :: (':' :: n.action.toList ++ [':'] ++ n.subject.toHex.toList)) := by
  have hrevision : (toString n.revision).toList = Nat.toDigits 10 n.revision.toNat := Nat.toList_repr
  unfold message
  rw [String.toList_append, String.toList_append, String.toList_append, String.toList_append, String.toList_append,
    hrevision]
  simp

theorem message_inj : n.message = n'.message ↔ n = n' := by
  refine ⟨fun h => ?_, congrArg message⟩
  have hchars := congrArg String.toList h
  rw [toList_message, toList_message] at hchars
  -- The revision ends at the first bracket, and the subject has one length.
  obtain ⟨hrevision, hrest⟩ := eq_of_append_cons_eq (bracket_notMem_toDigits _) (bracket_notMem_toDigits _)
    (List.append_cancel_left hchars)
  obtain ⟨hfront, hsubject⟩ := List.append_inj' hrest (by rw [TokenId.length_toHex, TokenId.length_toHex])
  have haction := List.append_cancel_right hfront
  -- What is left is the action, which may hold anything, also what ends the other parts.
  obtain ⟨revision, action, subject⟩ := n
  obtain ⟨revision', action', subject'⟩ := n'
  obtain rfl : revision = revision' := UInt32.toNat_inj.mp (toDigits_inj hrevision)
  obtain rfl : action = action' := String.toList_inj.mp (List.cons.inj haction).2
  obtain rfl : subject = subject' := TokenId.toHex_inj (String.toList_inj.mp hsubject)
  rfl

end Notification

/-! ## Proofs -/

instance : LawfulWire Notification where
  depth := 1
  fits _ := .object <| fits_cons (by decide) <| fits_cons (by decide) <| fits_cons (by decide) <| List.forall_mem_nil _
  decoder_eq h :=
    Json.Record.Reads.decoder_eq (((Json.Record.Reads.field rfl).map.seq (.field rfl)).seq (.field rfl)) (by simp) h

instance : LawfulWire NotificationProof where
  depth := 2
  fits _ := .object <| fits_cons (by decide) <| fits_cons (by decide) <| List.forall_mem_nil _
  decoder_eq h := Json.Record.Reads.decoder_eq ((Json.Record.Reads.field rfl).map.seq (.field rfl)) (by simp) h

/-- Two messages with one hash. -/
def Blake3.Collide (m m' : String) : Prop :=
  m ≠ m' ∧ hash (Text.utf8 m) = hash (Text.utf8 m')

theorem messageDigest_eq_iff {m m' : String} :
    messageDigest m = messageDigest m' ↔ m = m' ∨ Blake3.Collide m m' := by
  constructor
  · intro h
    have hhash : Blake3.hash (Text.utf8 m) = Blake3.hash (Text.utf8 m') := Subtype.ext (Hex.encodeLower_inj h)
    exact (em (m = m')).imp_right fun hne => ⟨hne, hhash⟩
  · rintro (rfl | ⟨-, hhash⟩)
    · rfl
    · exact congrArg (fun octets => Hex.encodeLower octets.1) hhash

namespace NotificationProof

variable {p : NotificationProof} {m : String}

/-- A proof verifies nothing but the message of its own notification and what collides with it. -/
def Confined (p : NotificationProof) : Prop :=
  ∀ m, p.verify m = true → m = p.notification.message ∨ Blake3.Collide m p.notification.message

theorem verify_iff : p.verify m = true ↔ messageDigest m = p.digest :=
  beq_iff_eq

theorem confined_of_digest (h : p.digest = p.notification.digest) : p.Confined := by
  intro m hm
  rw [verify_iff, h] at hm
  exact messageDigest_eq_iff.mp hm

theorem digest_of_confined (h : p.Confined) (hm : p.verify m = true) : p.digest = p.notification.digest := by
  rw [← verify_iff.mp hm]
  exact messageDigest_eq_iff.mpr (h m hm)

/-- Any proof is read back from its form. One that was made of a notification verifies its message and no other, but
for collisions, and any proof does so exactly if its digest is that of its own message, or of no message at all. -/
theorem confined_iff (p : NotificationProof) : Wire.Reloads p ∧
    (∀ n : Notification, p = n.proof → p.verify n.message = true ∧ p.Confined) ∧
    (p.Confined ↔ p.digest = p.notification.digest ∨ ∀ m, messageDigest m ≠ p.digest) := by
  refine ⟨reloads (by decide) p, ?_, fun h => ?_, ?_⟩
  · rintro n rfl
    exact ⟨verify_iff.mpr rfl, confined_of_digest rfl⟩
  · by_cases hsome : ∃ m, p.verify m = true
    · obtain ⟨m, hm⟩ := hsome
      exact .inl (digest_of_confined h hm)
    · exact .inr fun m hm => hsome ⟨m, verify_iff.mpr hm⟩
  · rintro (h | hnone)
    · exact confined_of_digest h
    · exact fun m hm => absurd (verify_iff.mp hm) (hnone m)

end NotificationProof

/-! ## A sample -/

theorem Blake3.hash_of_short {message : List UInt8} (h : message.length ≤ 1024) :
    (hash message).1 =
      (List.range 8).flatMap fun i => toLittleEndian 4 ((chunk message.toArray 0 true).getD i 0).toNat := by
  have hone : max 1 ((message.toArray.size + 1023) / 1024) = 1 := by
    rw [List.size_toArray]
    omega
  unfold hash
  dsimp only
  rw [hone, tree, dif_pos (Nat.le_refl 1)]

theorem messageDigest_of_short {m : String} (hascii : m.toList.all (·.toNat < 128)) (hshort : m.length ≤ 1024) :
    messageDigest m = Hex.encodeLower ((List.range 8).flatMap fun i => toLittleEndian 4
      ((Blake3.chunk (m.toList.map fun c => UInt8.ofNat c.toNat).toArray 0 true).getD i 0).toNat) := by
  have hcodes : ∀ c ∈ m.toList, c.toNat < 128 := fun c hc => of_decide_eq_true (List.all_eq_true.mp hascii c hc)
  unfold messageDigest
  rw [Text.utf8_of_ascii hcodes, Blake3.hash_of_short (by rwa [List.length_map, String.length_toList])]

namespace Sample

/-- The notification of one token with the digest of the message of another. -/
def stray : NotificationProof :=
  ⟨⟨1, "create", ⟨7⟩⟩, "13835776c78c4073ffcf1c46c06168cb78123e478a9853b4902d03e2c74e7ea9"⟩

theorem message_stray : stray.notification.message = "NIP13(v1):create:0000000000000007" := by
  decide

theorem messageDigest_eight : messageDigest "NIP13(v1):create:0000000000000008" = stray.digest := by
  rw [messageDigest_of_short (by decide) (by decide)]
  decide +kernel

theorem messageDigest_seven_ne : messageDigest "NIP13(v1):create:0000000000000007" ≠ stray.digest := by
  rw [messageDigest_of_short (by decide) (by decide)]
  decide +kernel

end Sample

open Sample in
/-- A proof is read that verifies the message of another notification, which does not collide with its own. -/
theorem NotificationProof.verifies_another_message :
    Json.decodeText Wire.decoder (toJson stray).compact = .ok stray ∧
    stray.verify "NIP13(v1):create:0000000000000008" = true ∧
    "NIP13(v1):create:0000000000000008" ≠ stray.notification.message ∧
    ¬ Blake3.Collide "NIP13(v1):create:0000000000000008" stray.notification.message := by
  have hreloads : Wire.Reloads stray := reloads (by decide) stray
  have hdiffer : messageDigest "NIP13(v1):create:0000000000000008" ≠ messageDigest stray.notification.message := by
    rw [messageDigest_eight, message_stray]
    exact messageDigest_seven_ne.symm
  obtain ⟨hmessage, hcollide⟩ := not_or.mp (messageDigest_eq_iff.not.mp hdiffer)
  exact ⟨hreloads.compact, verify_iff.mpr messageDigest_eight, hmessage, hcollide⟩

end TokenGovernance
