/-
# Who reports during authentication

The events on the way to a principal, or to its refusal, are those of authentication itself.  Only
where a refused caller goes on is the refusal reported once more, as a fault.

**Main statement.**  `reportsOnly_attach`.
-/
import Portcullis.Authentication
import Portcullis.Proofs.Reportable

namespace Portcullis

namespace Attempt

/-! ## 1. Events of a kind -/

/-- Every event of the attempt is of a kind. -/
def ReportsOnly {α : Type} (kind : Event → Prop) (x : Attempt α) : Prop := ∀ e ∈ x.events, kind e

section ReportsOnly

variable {α β : Type} {kind : Event → Prop}

theorem reportsOnly_of_silent {x : Attempt α} (h : x.events = []) : ReportsOnly kind x := by
  intro e he
  rw [h] at he
  cases he

theorem reportsOnly_ok (a : α) : ReportsOnly kind (ok a) := reportsOnly_of_silent rfl

theorem reportsOnly_fail (fault : Fault) : ReportsOnly kind (fail (α := α) fault) :=
  reportsOnly_of_silent rfl

theorem reportsOnly_ofExcept (x : Except Fault α) : ReportsOnly kind (ofExcept x) :=
  reportsOnly_of_silent rfl

theorem reportsOnly_report {e : Event} (h : kind e) : ReportsOnly kind (report e) := by
  intro other hother
  rwa [List.mem_singleton.mp hother]

theorem ReportsOnly.mono {kind' : Event → Prop} {x : Attempt α} (h : ReportsOnly kind x)
    (hle : ∀ e, kind e → kind' e) : ReportsOnly kind' x := fun e he => hle e (h e he)

/-- Two attempts report what the first reports and what the second does. -/
theorem ReportsOnly.bind {x : Attempt α} {f : α → Attempt β} (hx : ReportsOnly kind x)
    (hf : ∀ a, x.outcome = .ok a → ReportsOnly kind (f a)) : ReportsOnly kind (x >>= f) := by
  obtain ⟨events, outcome⟩ := x
  cases outcome with
  | error fault => exact hx
  | ok a =>
    intro e he
    rcases List.mem_append.mp he with hfirst | hsecond
    · exact hx e hfirst
    · exact hf a rfl e hsecond

theorem ReportsOnly.recover {x : Attempt α} {f : Fault → Attempt α} (hx : ReportsOnly kind x)
    (hf : ∀ fault, ReportsOnly kind (f fault)) : ReportsOnly kind (x.recover f) := by
  obtain ⟨events, outcome⟩ := x
  cases outcome with
  | ok a => exact hx
  | error fault =>
    intro e he
    rcases List.mem_append.mp he with hfirst | hsecond
    · exact hx e hfirst
    · exact hf fault e hsecond

end ReportsOnly

end Attempt

namespace Authentication

open Attempt

/-! ## 2. The strategies -/

/-- An event of authentication. -/
def Own (e : Event) : Prop := e.logger = logger

theorem reportsOnly_note (message : Text) (data : Members) :
    ReportsOnly Own (note message data) := reportsOnly_report rfl

theorem reportsOnly_bearerOrRefuse (r : Request) : ReportsOnly Own (bearerOrRefuse r) := by
  unfold bearerOrRefuse
  split
  · exact reportsOnly_ok _
  · exact reportsOnly_fail _

theorem reportsOnly_static (trust : Trust) (r : Request) : ReportsOnly Own (static trust r) := by
  unfold static
  split
  · exact reportsOnly_fail _
  refine (reportsOnly_bearerOrRefuse r).bind fun token _ => ?_
  refine (reportsOnly_note _ _).bind fun _ _ => (reportsOnly_ofExcept _).bind fun valid _ => ?_
  split
  · exact reportsOnly_ok _
  · exact reportsOnly_fail _

theorem reportsOnly_jwt (trust : Trust) (issuer : Issuer) (r : Request) (now : Instant) :
    ReportsOnly Own (jwt trust issuer r now) := by
  refine (reportsOnly_bearerOrRefuse r).bind fun token _ => ?_
  refine (reportsOnly_note _ _).bind fun _ _ => ?_
  split
  · exact reportsOnly_ok _
  · exact reportsOnly_fail _

theorem reportsOnly_hmac (trust : Trust) (secret : Option Text) (webhook : Bool) (r : Request) :
    ReportsOnly Own (hmac trust secret webhook r) := by
  unfold hmac
  split
  · exact reportsOnly_fail _
  simp only
  generalize (if webhook = true then SignatureMode.webhook else SignatureMode.standard) = mode
  split
  · refine (reportsOnly_note _ _).bind fun _ _ => ?_
    split
    · exact reportsOnly_ok _
    · exact reportsOnly_fail _
  · exact reportsOnly_fail _

theorem reportsOnly_tls (trust : Trust) (whitelist : Option (List Text)) (r : Request) :
    ReportsOnly Own (tls trust whitelist r) := by
  refine (reportsOnly_ofExcept _).bind fun peer _ => ?_
  split
  · refine (reportsOnly_note _ _).bind fun _ _ => ?_
    split
    · exact reportsOnly_ok _
    · exact reportsOnly_fail _
  · exact reportsOnly_fail _

theorem reportsOnly_verification (trust : Trust) (rule : VerificationRule) (r : Request)
    (now : Instant) : ReportsOnly Own (verification trust rule r now) := by
  unfold verification
  split
  · exact reportsOnly_fail _
  refine (reportsOnly_ofExcept _).bind fun found _ => ?_
  split
  · exact reportsOnly_fail _
  refine (reportsOnly_ofExcept _).bind fun code _ => ?_
  unfold verificationWith
  split
  · exact reportsOnly_fail _
  refine (reportsOnly_ofExcept _).bind fun subject _ => ?_
  refine (reportsOnly_ofExcept _).bind fun accepted _ => ?_
  exact (reportsOnly_note _ _).bind fun _ _ => reportsOnly_ok _

theorem reportsOnly_check (trust : Trust) (strategy : Strategy) (r : Request) (now : Instant) :
    ReportsOnly Own (check trust strategy r now) := by
  cases strategy with
  | none => exact reportsOnly_ok _
  | jwt issuer => exact reportsOnly_jwt trust issuer r now
  | hmac secret webhook => exact reportsOnly_hmac trust secret webhook r
  | static => exact reportsOnly_static trust r
  | tls whitelist => exact reportsOnly_tls trust whitelist r
  | verification rule => exact reportsOnly_verification trust rule r now

theorem reportsOnly_authenticate (trust : Trust) (strategy : Strategy) (r : Request)
    (now : Instant) : ReportsOnly Own (authenticate trust strategy r now) := by
  refine (reportsOnly_check trust strategy r now).recover fun fault => ?_
  cases fault with
  | web message code status data hint cause =>
    refine (reportsOnly_ofExcept _).bind fun shown _ => ?_
    have hown : Own (reportRefusal strategy.kind message code shown) := rfl
    exact (reportsOnly_report hown).bind fun _ _ => reportsOnly_fail _
  | _ => exact reportsOnly_fail _

/-! ## 3. At an endpoint -/

/-- **What is reported while a caller is attached** comes from authentication, or is a fault. -/
theorem reportsOnly_attach (trust : Trust) (strategy : Strategy) (acceptInvalid : Bool)
    (r : Request) (now : Instant) :
    ReportsOnly (fun e => Own e ∨ e.logger = Report.faultLogger)
      (attach trust strategy acceptInvalid r now) := by
  refine ReportsOnly.recover ?_ fun fault => ?_
  · exact (reportsOnly_authenticate trust strategy r now).mono fun _ h => Or.inl h
  · split
    · refine (reportsOnly_ofExcept _).bind fun event hevent => ?_
      have hreport : Report.fault fault (some r) = .ok event := hevent
      refine ReportsOnly.bind ?_ fun _ _ => reportsOnly_ok _
      exact reportsOnly_report (Or.inr (Report.logger_of_fault hreport))
    · exact reportsOnly_fail _

end Authentication

end Portcullis
