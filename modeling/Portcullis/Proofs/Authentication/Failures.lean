/-
# What the parts of a check fail with

The checks are made of parts: a secret is compared, a header, a query and a body are searched, a
certificate is looked for, an access token is verified.  What each of them fails with comes from the
request, and is a fault of a plain kind, or of a key, or the refusal of an access token at a stage.

**Main statements.**  `failsOnly_findFirst`, `failsOnly_ofRequest` and `failsOnly_verify`.
-/
import Portcullis.Authentication
import Portcullis.Proofs.Credential.Lookup
import Portcullis.Proofs.Token.Faults

namespace Portcullis

/-! ## 1. Secrets, lookups and certificates -/

/-- A fault of a plain kind. -/
inductive Fault.IsPlain : Fault → Prop
  | plain (kind : Fault.Kind) (message : Text) : IsPlain (.plain kind message)

theorem StaticSecret.failsOnly_check (secret : StaticSecret) (token : Text) :
    FailsOnly Fault.IsPlain (secret.check token) := by
  unfold check
  split
  · exact failsOnly_ok _
  split
  · exact failsOnly_ok _
  · exact failsOnly_error (.plain _ _)

namespace LookupRule

theorem failsOnly_find (rule : LookupRule) (r : Request) :
    FailsOnly Fault.IsPlain (rule.find r) := by
  unfold find findWith
  split
  · simp only
    split
    · exact failsOnly_ok _
    · exact failsOnly_error (.plain _ _)
  · exact failsOnly_ok _
  · exact failsOnly_ok _

theorem failsOnly_findFirst (rules : List LookupRule) (r : Request) :
    FailsOnly Fault.IsPlain (findFirst rules r) := by
  induction rules with
  | nil => exact failsOnly_ok _
  | cons rule rest ih =>
    rw [findFirst_cons]
    refine (failsOnly_find rule r).bind fun found _ => ?_
    cases found with
    | none => exact ih
    | some t => exact failsOnly_ok _

end LookupRule

namespace Peer

theorem failsOnly_firstOfChain (chain : Json) :
    FailsOnly Fault.IsPlain (firstOfChain chain) := by
  unfold firstOfChain
  split
  · exact failsOnly_ok _
  · exact failsOnly_ok _
  · exact failsOnly_error (.plain _ _)
  · exact failsOnly_ok _

theorem failsOnly_standIn (name : Json) :
    FailsOnly Fault.IsPlain (standIn name) := by
  unfold standIn
  split
  · split
    · exact failsOnly_ok _
    · exact failsOnly_ok _
  · split
    · exact failsOnly_error (.plain _ _)
    · exact failsOnly_ok _

theorem failsOnly_ofTransport (report : Members) :
    FailsOnly Fault.IsPlain (ofTransport report) := by
  unfold ofTransport
  simp only
  split
  · exact failsOnly_ok _
  split
  · exact failsOnly_ok _
  refine (failsOnly_firstOfChain _).bind fun item _ => ?_
  split
  · exact failsOnly_ok _
  · exact failsOnly_ok _
  · exact failsOnly_error (.plain _ _)
  · exact (failsOnly_standIn _).bind fun _ _ => failsOnly_ok _
  · exact failsOnly_ok _

theorem failsOnly_ofRequest (trustProxy : Bool) (r : Request) :
    FailsOnly Fault.IsPlain (ofRequest trustProxy r) := by
  unfold ofRequest
  split
  · exact failsOnly_ok _
  · exact failsOnly_ofTransport _
  · exact failsOnly_error (.plain _ _)

end Peer

/-! ## 2. Access tokens -/

namespace TokenTrust

/-- What an access token that is not accepted ends in: its refusal at a stage, or what its key leads
to. -/
inductive Rejects : Fault → Prop
  | access (reason : Reason) (message : Text) : Rejects (.access reason message)
  | ofKey {fault : Fault} (h : fault.OfKey) : Rejects fault

theorem failsOnly_verify (trust : TokenTrust) (token : Text) (issuer : Issuer) (now : Instant) :
    FailsOnly Rejects (trust.verify token issuer now) := by
  unfold verify
  split
  · exact failsOnly_error (.access _ _)
  next key =>
  split
  · next fault hread =>
    refine failsOnly_error ?_
    cases Token.failsOnly_read _ _ _ _ _ fault hread with
    | token flaw => exact .access _ _
    | ofKey h =>
      -- What a key leads to is passed on as it is.
      cases h with
      | key flaw => exact .ofKey (.key flaw)
      | plain kind message => exact .ofKey (.plain kind message)
  · simp only
    split
    · exact failsOnly_ok _
    · exact failsOnly_error (.access _ _)

end TokenTrust

end Portcullis
