/-
# Minting for whoever asks

Outside production a service mints verification tokens for whoever submits a form.  The form asks
less of an action than minting does: it is a text with something in it, and minting fails for one
that is blank.  That is no refusal, so an accepted form is answered with a token exactly if its
order can be filled (`Fillable`), and otherwise as if the service had failed.

A token that is handed out is accepted for the action of the form until the end that the response
tells, by the configuration that it was minted under, unless the parties of that configuration are
not recognised (`Unrecognised`).

**Main statement.**  `respond_verificationMint`.
-/
import Portcullis.Proofs.Service.Boundary
import Portcullis.Proofs.Service.Forms
import Portcullis.Proofs.Verification.Orders

namespace Portcullis

/-! ## 1. The response to an order -/

namespace Minting

open Verification

/-- The body of a response with a verification token. -/
def mintedBody (minted : Minted) : Json := .object [
  ("verification_token", .text minted.token), ("otp", .ofText? minted.code),
  ("action", .text minted.action), ("expires_at", .num minted.expiresAt)]

/-- Texts that can be written and an end that is finite make a response. -/
theorem verificationResult_ok {minted : Minted} (htoken : minted.token.Whole)
    (hcode : ∀ c, minted.code = some c → c.Whole) (haction : minted.action.Whole) {stop : ℚ}
    (hstop : minted.expiresAt.toRat? = some stop) :
    verificationResult minted = .ok ⟨200, Response.jsonHeaders, some (mintedBody minted)⟩ := by
  have htokenWhole := (Text.any_isSurrogate_iff minted.token).mpr htoken
  have hactionWhole := (Text.any_isSurrogate_iff minted.action).mpr haction
  have hcodeWhole : Response.firstUnpaired? (.ofText? minted.code) = none := by
    cases hcoded : minted.code with
    | none => rfl
    | some c =>
      rw [Json.ofText?, Response.firstUnpaired?, (Text.any_isSurrogate_iff c).mpr (hcode c hcoded)]
      rfl
  have hwritten : Response.firstUnpaired? (mintedBody minted) = none := by
    simp only [mintedBody, Response.firstUnpaired?, Response.firstUnpairedMember?, htokenWhole,
      hactionWhole, hcodeWhole]
    rfl
  have hkept : Response.finiteOrNull (mintedBody minted) = mintedBody minted := by
    rw [mintedBody]
    cases hexpires : minted.expiresAt with
    | finite => cases minted.code <;> rfl
    | _ =>
      rw [hexpires] at hstop
      cases hstop
  change Response.ofResult 200 (mintedBody minted) = _
  rw [Response.ofResult, hwritten, hkept]

/-! ## 2. Orders that are submitted -/

/-- The token of a response is for the order: it names its action in trimmed capitals and has its
code, and the response tells when it ends.  Up to then it is accepted for the action, unless the
parties of the configuration are not recognised. -/
structure Fills (config : Verification) (order : Order) (now : Instant) (minted : Minted) :
    Prop where
  action : normalizeAction order.action = .ok minted.action
  code : CodeFits order minted.code
  lasts : ∃ span : Nat, order.lifetime = .int span
    ∧ minted.expiresAt.toRat? = some ((Instant.wholeSeconds now + span : Int) : ℚ)
  honoured : ∀ {action subject : Json} {stop : ℚ} {t : Instant},
    (action = order.action ∨ action = .text minted.action) →
    (subject = .null ∨ subject = .ofText? order.subject) →
    minted.expiresAt.toRat? = some stop → now ≤ t → t < stop →
      Honoured config order minted action subject t

/-- The seconds of a date and of what is added to it in a form are kept exactly. -/
theorem natAbs_lt_of_date {now : Instant} (hdate : Instant.hasDate now = true) {span : Nat}
    (hspan : span ≤ 3600) : (Instant.wholeSeconds now + span).natAbs < 2 ^ 53 := by
  have hnow : (Instant.wholeSeconds now).natAbs < 253402300801 := by
    have hle := (Instant.natAbs_wholeSeconds_le now).trans_lt (Instant.abs_lt_of_hasDate hdate)
    exact_mod_cast hle
  omega

section Submitted

variable {config : Verification} {order : Order} {name : Text} {span : Nat} {now : Instant}
  {identifier : Text} {source : Nat → Fin 10}

/-- An order that is submitted is filled, with an end that is told exactly, or fails with no
refusal, but one that can be reported. -/
theorem Submitted.issue_cases (h : Submitted order name span)
    (hsecret : ∃ octets, Token.secretBytes config.secret = .ok octets)
    (hdate : Instant.hasDate now = true) (identifier : Text) (source : Nat → Fin 10) :
    (Fillable config order ∧ ∃ minted, config.issue order now identifier source = .ok minted
        ∧ minted.expiresAt.toRat? = some ((Instant.wholeSeconds now + span : Int) : ℚ))
      ∨ (¬ Fillable config order ∧ ∃ fault,
        config.issue order now identifier source = .error fault ∧ fault.isWeb = false
          ∧ fault.Reportable) := by
  have hstart := natAbs_lt_of_date hdate (Nat.zero_le 3600)
  rw [Nat.cast_zero, add_zero] at hstart
  have hstop := natAbs_lt_of_date hdate h.le_most
  have hlength : codeLength order.length = .ok 6 := by
    rw [h.length]
    rfl
  have hspan : Verification.lifetime order.lifetime = .ok span := by
    rw [h.lifetime]
    exact if_pos h.least_le
  exact Verification.issue_cases hsecret hlength hspan hstart hstop

/-- What is minted for it fills it. -/
theorem Submitted.fills (h : Submitted order name span) (hidentifier : Text.Ascii identifier)
    (hidentifierNe : identifier ≠ []) (hnow : 0 ≤ now) {minted : Minted}
    (hissue : config.issue order now identifier source = .ok minted)
    (hexact : minted.expiresAt.toRat? = some ((Instant.wholeSeconds now + span : Int) : ℚ)) :
    Fills config order now minted
      ∧ verificationResult minted = .ok ⟨200, Response.jsonHeaders, some (mintedBody minted)⟩ := by
  obtain ⟨htoken, hcode, hwhole⟩ := whole_of_issue hissue fun t ht => by
    obtain rfl := Json.text.inj (h.action.symm.trans ht)
    exact h.whole
  obtain ⟨haction, hfits, -⟩ := issue_ok hissue
  refine ⟨⟨haction, hfits, ⟨span, h.lifetime, hexact⟩, ?_⟩,
    verificationResult_ok htoken hcode hwhole hexact⟩
  intro action subject stop t hdemanded hsubject hstops ht hlt
  obtain rfl := Option.some.inj (hexact.symm.trans hstops)
  exact honoured_of_issue hissue hidentifier hidentifierNe hnow h.lifetime hwhole h.subject
    hdemanded hsubject ht hlt

end Submitted

end Minting

/-! ## 3. The response to a form -/

namespace Service

open Minting Verification

variable {service : Service} {r : Request} {m : Moment}

/-- A form is what a request for a verification token brings. -/
theorem dispatch_verificationMint {stage : Stage} (hstage : stage ≠ .prod) {routes : List Route}
    (hroutes : service.routes = ownRoutes stage ++ routes)
    (hpath : r.path = "/v1/dev/verification-token") (hmethod : r.method = "POST") (m : Moment) :
    (service.dispatch r m).outcome = (Minting.verification service.trust r m).outcome := by
  have hsearch : Route.search r.path r.method service.routes
      = .ok (some (.ofLiteral "/v1/dev/verification-token" .post .verificationMint),
        some (.ofLiteral "/v1/dev/verification-token" .post .verificationMint)) := by
    rw [hpath, hmethod, hroutes]
    cases stage with
    | prod => exact absurd rfl hstage
    | _ => rfl
  rw [dispatch, hsearch]
  rfl

/-- **An accepted form for a verification token** is answered with one that fills its order, or with
the response of a failure if the order cannot be filled. -/
theorem respond_verificationMint {files : Trust.Files} {settings : Settings} {given : Option Trust}
    {endpoints : List Endpoint}
    (hbuilt : (build files settings given endpoints).outcome = .ok service)
    (hstage : settings.stage ≠ .prod) {config : Verification}
    (hconfig : service.trust.verification = some config)
    (hsecret : ∃ octets, Token.secretBytes config.secret = .ok octets)
    (hpath : r.path = "/v1/dev/verification-token") (hmethod : r.method = "POST")
    (hreportable : r.Reportable) {fields : Members}
    (hform : Form.read verificationForm r = .ok (.ok fields)) (hnow : 0 ≤ m.now)
    (hdate : Instant.hasDate m.now = true) (hidentifier : Text.Ascii m.identifier)
    (hidentifierNe : m.identifier ≠ []) :
    (Fillable config (orderOf fields) ∧ ∃ response minted,
        (service.respond r m).response = some response ∧ response.status = 200
          ∧ response.body = some (mintedBody minted)
          ∧ Fills config (orderOf fields) m.now minted)
      ∨ (¬ Fillable config (orderOf fields) ∧ (service.respond r m).response = some .internal) := by
  obtain ⟨routes, hroutes⟩ := routes_of_build hbuilt
  obtain ⟨name, span, hsubmitted⟩ := submitted_of_form hform
  have houtcome := dispatch_verificationMint hstage hroutes hpath hmethod m
  rw [Minting.verification, hform] at houtcome
  simp only [mintVerification, hconfig] at houtcome
  rcases hsubmitted.issue_cases hsecret hdate m.identifier m.digits with
    ⟨hfillable, minted, hissue, hexact⟩ | ⟨hno, fault, hissue, hweb, hfault⟩
  · obtain ⟨hfills, hresult⟩ := hsubmitted.fills hidentifier hidentifierNe hnow hissue hexact
    rw [hissue] at houtcome
    exact Or.inl ⟨hfillable, _, minted,
      response_of_answer hreportable.address (houtcome.trans hresult), rfl, rfl, hfills⟩
  · rw [hissue] at houtcome
    exact Or.inr ⟨hno, response_of_fault hfault (reportable_reported hreportable service m)
      houtcome hweb⟩

/-- Settings with a secret for verification tokens and nothing else. -/
def mintingSettings : Settings :=
  .build [("ENGINE_VERIFICATION_TOKEN_SECRET", "correct horse battery staple")] .dev 8080 false

/-- A request that submits a form. -/
def formRequest (body : Text) : Request where
  method := "POST"
  path := "/v1/dev/verification-token"
  query := []
  headers := [("content-type", "application/json")]
  body := Bytes.ofAscii body
  tls := .null
  client := none
  identity := .absent

/-- The fields of a form with an action and nothing else. -/
def fieldsFor (action : Text) : Members := [
  ("action", .text action), ("subject", .null), ("with_otp", .bool true),
  ("ttl_seconds", .int 300)]

/-- A form for a reset is answered with a token that is accepted for it. -/
theorem respond_verificationMint_reset :
    ∃ service response minted,
      (build noFiles mintingSettings none []).outcome = .ok service
        ∧ (service.respond (formRequest "\x7b\"action\": \"reset\"\x7d") firstMoment).response
          = some response
        ∧ response.status = 200 ∧ response.body = some (mintedBody minted)
        ∧ ∃ accepted, (resetConfig none).verify
            ((orderOf (fieldsFor "reset")).demand minted (.text "reset") .null) minted.token 50
              = .ok accepted ∧ accepted.action = minted.action := by
  obtain ⟨service, hbuilt, hconfig⟩ : ∃ service,
      (build noFiles mintingSettings none []).outcome = .ok service
        ∧ service.trust.verification = some (resetConfig none) := ⟨_, rfl, rfl⟩
  have hform : Form.read verificationForm (formRequest "\x7b\"action\": \"reset\"\x7d")
      = .ok (.ok (fieldsFor "reset")) := rfl
  have hreset : Text.isBlank "reset" = false := by decide
  have hfillable : Fillable (resetConfig none) (orderOf (fieldsFor "reset")) :=
    ⟨⟨"reset", rfl, hreset⟩, fun _ => (Text.any_isSurrogate_iff _).mp (by decide)⟩
  have hrecognised : ¬ Unrecognised (resetConfig none) (orderOf (fieldsFor "reset")) := by
    intro h
    cases h with
    | emptyAudience h => cases h
    | issuerPair h => exact h (by decide)
    | audiencePair h _ => cases h
  rcases respond_verificationMint hbuilt (by decide) hconfig (exists_ok_of_toOption (by decide))
    rfl rfl ⟨⟨_, rfl⟩, by rintro ⟨⟩⟩ hform (m := firstMoment) (le_refl 0) (by decide) (by decide)
    (by decide) with
    ⟨-, response, minted, hresponse, hstatus, hbody, hfills⟩ | ⟨hno, -⟩
  case inr => exact absurd hfillable hno
  refine ⟨service, response, minted, hbuilt, hresponse, hstatus, hbody, ?_⟩
  obtain ⟨span, hspan, hstop⟩ := hfills.lasts
  obtain rfl : 300 = span := Int.ofNat.inj (Json.int.inj hspan)
  cases hfills.honoured (Or.inl rfl) (Or.inl rfl) hstop (t := 50) (by decide)
      (by decide +kernel) with
  | accepted _ verified same => exact ⟨_, verified, same⟩
  | refused unrecognised _ => exact absurd unrecognised hrecognised

/-- A form for an action of one blank is accepted, and answered as if the service had failed. -/
theorem respond_blankForm :
    ∃ service, (build noFiles mintingSettings none []).outcome = .ok service
      ∧ mintingSettings.stage ≠ .prod
      ∧ service.trust.verification = some (resetConfig none)
      ∧ (resetConfig none).audience = none
      ∧ (∃ octets, Token.secretBytes (resetConfig none).secret = .ok octets)
      ∧ Form.read verificationForm (formRequest "\x7b\"action\": \" \"\x7d")
        = .ok (.ok (fieldsFor " "))
      ∧ (service.respond (formRequest "\x7b\"action\": \" \"\x7d") firstMoment).response
        = some .internal :=
  ⟨_, rfl, by decide, rfl, rfl, exists_ok_of_toOption (by decide), rfl, rfl⟩

end Service

end Portcullis
