/-
# What can be reported

The report of a fault shows what the fault carries and the request in which it arose, and either may
withstand it.  A fault can be reported (`Fault.Reportable`) if its text can be written, its data
looked through and its cause shown; a request (`Request.Reportable`) if its address can be read and
its identity, where it is a foreign one, has a subject to ask for.  There is a report exactly of a
fault and a request that both can be.

The service's own faults all can be reported: what stands in the way comes from whoever uses the
service.

**Main statements.**  `fault_eq_ok_iff`, and `fault_ok_iff`.
-/
import Portcullis.Event
import Portcullis.Proofs.Results

namespace Portcullis

/-! ## 1. Faults and requests -/

namespace Fault

/-- The data of a fault of the kinds that have some. -/
def data? : Fault → Option (Except Fault Json)
  | web _ _ _ data _ _ | engine _ data _ _ | configuration _ data _ _ => some data
  | _ => none

/-- What a fault was raised from, in the kinds that keep it. -/
def cause? : Fault → Option Fault
  | web _ _ _ _ _ cause | engine _ _ _ cause | configuration _ _ _ cause => cause
  | _ => none

/-- A fault can be reported: its text can be written, its data looked through, its cause shown. -/
structure Reportable (f : Fault) : Prop where
  text : ∃ t, f.text = .ok t
  data : ∀ d, f.data? = some d → ∃ v, d = .ok v
  cause : ∀ c, f.cause? = some c → ∃ t, c.shown = .ok t

/-- A fault with a text and neither data nor a cause can be reported. -/
theorem reportable_of_bare {f : Fault} (text : ∃ t, f.text = .ok t) (data : f.data? = none)
    (cause : f.cause? = none) : f.Reportable where
  text := text
  data := fun _ h => nomatch data.symm.trans h
  cause := fun _ h => nomatch cause.symm.trans h

theorem reportable_plain (kind : Kind) (message : Text) : (plain kind message).Reportable :=
  reportable_of_bare ⟨_, rfl⟩ rfl rfl

theorem reportable_internal (message : Text) (data : Members) :
    (internal message data).Reportable where
  text := ⟨_, rfl⟩
  data := by
    rintro _ ⟨⟩
    exact ⟨_, rfl⟩
  cause := nofun

/-- A refusal can be reported if its cause can be shown. -/
theorem reportable_web {message code : Text} {status : Int} {data hint : Json}
    {cause : Option Fault} (h : ∀ c, cause = some c → ∃ t, c.shown = .ok t) :
    (web message code status (.ok data) hint cause).Reportable where
  text := ⟨_, rfl⟩
  data := by
    rintro _ ⟨⟩
    exact ⟨_, rfl⟩
  cause := h

end Fault

/-- Something can be reported of a request: its address can be read, and its identity is not a
foreign one without a subject to ask for. -/
structure Request.Reportable (r : Request) : Prop where
  address : ∃ shown, Report.requestFields r = .ok shown
  identity : r.identity ≠ .foreign none

namespace Report

/-! ## 2. The parts of a report -/

/-- **What the report of a fault is made of.** -/
theorem fault_eq_ok_iff {f : Fault} {request : Option Request} {event : Event} :
    fault f request = .ok event
      ↔ ∃ fields context text, faultFields f = .ok fields ∧ circumstances request = .ok context
        ∧ f.text = .ok text ∧ eventOf f (fields ++ context) text = event := by
  constructor
  · intro h
    obtain ⟨fields, hfields, h⟩ := bind_eq_ok h
    obtain ⟨context, hcontext, h⟩ := bind_eq_ok h
    obtain ⟨text, htext, h⟩ := bind_eq_ok h
    exact ⟨fields, context, text, hfields, hcontext, htext, Except.ok.inj h⟩
  · rintro ⟨fields, context, text, hfields, hcontext, htext, rfl⟩
    simp only [fault, hfields, hcontext, htext, ok_bind]
    rfl

/-- A report of a fault comes from the logger of faults. -/
theorem logger_of_fault {f : Fault} {request : Option Request} {event : Event}
    (h : fault f request = .ok event) : event.logger = faultLogger := by
  obtain ⟨_, _, _, -, -, -, rfl⟩ := fault_eq_ok_iff.mp h
  rfl

/-- Data and cause are shown exactly if the data can be looked through and the cause shown. -/
theorem detailFields_ok_iff (data : Except Fault Json) (cause : Option Fault) :
    (∃ ms, detailFields data cause = .ok ms)
      ↔ (∃ v, data = .ok v) ∧ ∀ c, cause = some c → ∃ t, c.shown = .ok t := by
  constructor
  · rintro ⟨ms, h⟩
    obtain ⟨v, hdata, h⟩ := bind_eq_ok h
    obtain ⟨shown, hcause, -⟩ := bind_eq_ok h
    refine ⟨⟨v, hdata⟩, ?_⟩
    rintro c rfl
    obtain ⟨t, ht, -⟩ := bind_eq_ok hcause
    exact ⟨t, ht⟩
  · rintro ⟨⟨v, rfl⟩, hcause⟩
    cases cause with
    | none => exact ⟨_, rfl⟩
    | some c =>
      obtain ⟨t, ht⟩ := hcause c rfl
      simp only [detailFields, causeFields, ht, ok_bind]
      exact ⟨_, rfl⟩

/-- Everything but the text of a fault is shown exactly if its data and its cause are. -/
theorem faultFields_ok_iff (f : Fault) :
    (∃ ms, faultFields f = .ok ms)
      ↔ (∀ d, f.data? = some d → ∃ v, d = .ok v)
        ∧ ∀ c, f.cause? = some c → ∃ t, c.shown = .ok t := by
  have hdetails : ∀ (data : Except Fault Json) (cause : Option Fault) (g : Members → Members),
      (∃ ms, (do return g (← detailFields data cause) : Except Fault Members) = .ok ms)
        ↔ (∀ d, some data = some d → ∃ v, d = .ok v)
          ∧ ∀ c, cause = some c → ∃ t, c.shown = .ok t := by
    intro data cause g
    rw [show (∀ d, some data = some d → ∃ v, d = .ok v) ↔ ∃ v, data = .ok v by simp,
      ← detailFields_ok_iff]
    cases detailFields data cause with
    | error fault => exact iff_of_false nofun nofun
    | ok ms => exact iff_of_true ⟨_, rfl⟩ ⟨_, rfl⟩
  cases f with
  | web message code status data hint cause => exact hdetails data cause _
  | engine message data hint cause => exact hdetails data cause _
  | configuration message data hint cause => exact hdetails data cause _
  | _ => exact iff_of_true ⟨_, rfl⟩ ⟨nofun, nofun⟩

/-- The circumstances are shown exactly if something can be reported of the request. -/
theorem circumstances_ok_iff (r : Request) :
    (∃ ms, circumstances (some r) = .ok ms) ↔ r.Reportable := by
  constructor
  · rintro ⟨ms, h⟩
    obtain ⟨shown, hshown, h⟩ := bind_eq_ok h
    obtain ⟨user, huser, -⟩ := bind_eq_ok h
    refine ⟨⟨shown, hshown⟩, fun hforeign => ?_⟩
    rw [hforeign] at huser
    cases huser
  · rintro ⟨⟨shown, hshown⟩, hidentity⟩
    have huser : ∃ user, userFields r.identity = .ok user := by
      cases hr : r.identity with
      | absent => exact ⟨_, rfl⟩
      | foreign subject =>
        cases subject with
        | none => exact absurd hr hidentity
        | some v => exact ⟨_, rfl⟩
      | principal p =>
        rw [userFields]
        split
        · exact ⟨_, rfl⟩
        · exact ⟨_, rfl⟩
    obtain ⟨user, huser⟩ := huser
    simp only [circumstances, hshown, huser, ok_bind]
    exact ⟨_, rfl⟩

/-! ## 3. Reports -/

/-- **There is a report** exactly of a fault and a request that can be reported. -/
theorem fault_ok_iff (f : Fault) (r : Request) :
    (∃ event, fault f (some r) = .ok event) ↔ f.Reportable ∧ r.Reportable := by
  rw [← circumstances_ok_iff]
  constructor
  · rintro ⟨event, h⟩
    obtain ⟨fields, context, text, hfields, hcontext, htext, -⟩ := fault_eq_ok_iff.mp h
    obtain ⟨hdata, hcause⟩ := (faultFields_ok_iff f).mp ⟨fields, hfields⟩
    exact ⟨⟨⟨text, htext⟩, hdata, hcause⟩, context, hcontext⟩
  · rintro ⟨⟨⟨text, htext⟩, hdata, hcause⟩, context, hcontext⟩
    obtain ⟨fields, hfields⟩ := (faultFields_ok_iff f).mpr ⟨hdata, hcause⟩
    exact ⟨_, fault_eq_ok_iff.mpr ⟨fields, context, text, hfields, hcontext, htext, rfl⟩⟩

end Report

end Portcullis
