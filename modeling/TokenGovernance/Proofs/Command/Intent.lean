import TokenGovernance.Proofs.Command.Creation
import TokenGovernance.Proofs.Governance.Notification

/-! # Proofs of intent

The transfer that announces an action carries a message which can be taken for no other, so that it tells what is
announced, in a given setting, whatever the text of the action.
-/

namespace TokenGovernance

namespace Invocation

variable {i j : Invocation} {action action' : String} {token token' : TokenIdentifier}

/-- The transactions of two invocations have the same signer and the same parameters. -/
structure SameSetting (i j : Invocation) : Prop where
  target : i.target = j.target
  network : i.context.network.network = j.context.network.network
  deadline : i.context.parameters.deadline = j.context.parameters.deadline
  maxFee : i.context.parameters.maxFee = j.context.parameters.maxFee

theorem notification_eq_iff : i.notification action token = j.notification action' token' ↔
    i.context.revision = j.context.revision ∧ action = action' ∧ token.id = token'.id := by
  unfold notification
  rw [Notification.mk.injEq]

theorem proofOfIntent_eq_iff : i.proofOfIntent action token = j.proofOfIntent action' token' ↔
    i.SameSetting j ∧ i.notification action token = j.notification action' token' := by
  unfold proofOfIntent byTarget Transaction.signedBy Context.transaction
  rw [InnerTransaction.mk.injEq, Transaction.mk.injEq, Operation.transfer.injEq, Option.some.injEq,
    Notification.message_inj]
  constructor
  · rintro ⟨htarget, hnetwork, hdeadline, hfee, -, -, hnotification⟩
    exact ⟨⟨htarget, hnetwork, hdeadline, hfee⟩, hnotification⟩
  · rintro ⟨⟨htarget, hnetwork, hdeadline, hfee⟩, hnotification⟩
    exact ⟨htarget, hnetwork, hdeadline, hfee, congrArg PublicAccount.address htarget, rfl, hnotification⟩

/-- A message is that of one notification alone. In one setting, the proofs of intent are the same exactly if the
revision, the action and the number of the token are. -/
theorem proofOfIntent_unambiguous :
    (∀ n n' : Notification, n.message = n'.message → n = n') ∧
    ∀ i j : Invocation, i.SameSetting j → ∀ (action action' : String) (token token' : TokenIdentifier),
      i.proofOfIntent action token = j.proofOfIntent action' token' ↔
        i.context.revision = j.context.revision ∧ action = action' ∧ token.id = token'.id := by
  refine ⟨fun n n' => Notification.message_inj.mp, fun i j hsetting action action' token token' => ?_⟩
  rw [proofOfIntent_eq_iff, notification_eq_iff, and_iff_right hsetting]

end Invocation

/-! ## A sample -/

namespace Sample

/-- An invocation for the same account by another member, without arguments. -/
def seconded : Invocation :=
  ⟨context (key 2) [], target⟩

theorem seconded_sameSetting : creation.SameSetting seconded :=
  ⟨rfl, rfl, rfl, rfl⟩

/-- The number of the sample token with another nonce. -/
def namesake : TokenIdentifier :=
  ⟨⟨Octets.fill 4 0⟩, token.id, token.owner⟩

end Sample

open Sample in
/-- Neither who acts nor the nonce of the token matters, and an action that is the start of a message makes a
different one. -/
theorem Invocation.proofOfIntent_of_imitation : creation.SameSetting seconded ∧
    creation.proofOfIntent "create" token = seconded.proofOfIntent "create" namesake ∧
    creation.proofOfIntent "create" token ≠ seconded.proofOfIntent "NIP13(v1):create" namesake := by
  obtain ⟨-, hproofs⟩ := proofOfIntent_unambiguous
  refine ⟨seconded_sameSetting, ?_, ?_⟩
  · exact (hproofs _ _ seconded_sameSetting _ _ _ _).mpr ⟨rfl, rfl, rfl⟩
  · intro h
    obtain ⟨-, haction, -⟩ := (hproofs _ _ seconded_sameSetting _ _ _ _).mp h
    exact absurd haction (by decide)

end TokenGovernance
