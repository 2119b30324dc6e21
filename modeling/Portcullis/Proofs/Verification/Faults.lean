/-
# What the claims of a token are disputed with

Claims that name an action and an identifier are disputed in three ways (`Disputes`): a refusal of
what does not match, an action that has no normal form, and a code that cannot be held against its
digest.  None of them says that the bearer is unknown.

**Main statement.**  `failsOnly_judge`.
-/
import Portcullis.Proofs.Token.Faults
import Portcullis.Proofs.Verification.Decision

namespace Portcullis.Verification

/-- What the claims of a token are disputed with. -/
inductive Disputes : Fault → Prop
  | mismatch (message : Text) (data : Members) : Disputes (mismatch message data)
  | action (message : Text) (data : Members) : Disputes (.internal message data)
  | plain (kind : Fault.Kind) (message : Text) : Disputes (.plain kind message)

theorem failsOnly_normalizeAction (v : Json) : FailsOnly Disputes (normalizeAction v) := by
  unfold normalizeAction
  split
  · split
    · exact failsOnly_error (.action _ _)
    · exact failsOnly_ok _
  · exact failsOnly_error (.action _ _)

theorem failsOnly_checkAction (demand : Demand) (action : Text) :
    FailsOnly Disputes (checkAction demand action) := by
  unfold checkAction
  split
  · exact failsOnly_ok _
  refine (failsOnly_normalizeAction demand.action).bind fun expected _ => ?_
  split
  · exact failsOnly_ok _
  · exact failsOnly_error (.mismatch _ _)

theorem failsOnly_checkSubject (demand : Demand) (claims : Members) :
    FailsOnly Disputes (checkSubject demand claims) := by
  unfold checkSubject
  split
  · split
    · exact failsOnly_error (.mismatch _ _)
    · exact failsOnly_ok _
  · split
    · exact failsOnly_ok _
    · exact failsOnly_error (.mismatch _ _)

theorem failsOnly_codeDigest (code key : Text) : FailsOnly Disputes (codeDigest code key) := by
  unfold codeDigest
  split
  · exact failsOnly_ok _
  · exact failsOnly_error (.plain _ _)

theorem failsOnly_checkCode (config : Verification) (demand : Demand) (bound : Json) :
    FailsOnly Disputes (config.checkCode demand bound) := by
  unfold checkCode
  split
  · exact failsOnly_ok _
  split
  · refine (failsOnly_codeDigest _ _).bind fun expected _ => ?_
    split
    · exact failsOnly_error (.plain _ _)
    split
    · exact failsOnly_ok _
    · exact failsOnly_error (.mismatch _ _)
  · exact failsOnly_error (.mismatch _ _)

/-- **Claims that name an action and an identifier** are accepted or disputed. -/
theorem failsOnly_judge (config : Verification) (demand : Demand) {claims : Members}
    {action identifier : Text} (hidentity : readIdentity claims = .ok (action, identifier)) :
    FailsOnly Disputes (config.judge demand claims) := by
  rw [judge, hidentity, ok_bind]
  refine (failsOnly_checkAction demand action).bind fun _ _ => ?_
  refine (failsOnly_checkSubject demand claims).bind fun _ _ => ?_
  exact (failsOnly_checkCode config demand _).bind fun _ _ => failsOnly_ok _

end Portcullis.Verification
