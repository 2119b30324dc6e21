/-
# What is signed and what is validated

An endpoint with signatures in the payload picks an object of the request twice: authentication to
check its signature, and validation to read the fields from it.  The first goes by whether the
request is a `GET`, the second by whether the method has its input in the query.

For `GET`, `POST`, `PUT` and `PATCH` both pick the same object (`input_of_signsInput`).  `DELETE`
and `HEAD` sign their body like every request that is no `GET`, but their input is the query, which
no signature covers.

**Main statement.**  `validate_signed`.
-/
import Portcullis.Endpoint
import Portcullis.Proofs.Authentication.Hmac

namespace Portcullis

/-- The methods whose input is what is signed. -/
def Method.SignsInput (method : Method) : Prop := method ≠ .delete ∧ method ≠ .head

namespace Endpoint

open Authentication

/-! ## 1. Signed objects -/

/-- The signature in an object is accepted: under the secret that counts it covers the canonical
octets of the other members. -/
inductive Signs (trust : Trust) (secret : Option Text) (ms : Members) : Prop
  | mk {s t : Text} {key message : Bytes} (effective : IsEffective trust secret s)
      (octets : s.utf8? = some key) (signature : Members.get? "signature" ms = some (.text t))
      (filled : t ≠ [])
      (form : Signature.canonical .standard (.json (.object (Members.erase "signature" ms)))
        = .ok message)
      (digits : t.asciiLower = Bytes.hex (Hash.sha256.hmac key message))

/-- Who is authenticated by a signature in the payload has signed it. -/
theorem signs_of_authenticated {trust : Trust} {secret : Option Text} {r : Request}
    {now : Instant} {p : Principal}
    (h : (authenticate trust (.hmac secret false) r now).outcome = .ok p) :
    ∃ ms, signedPayload r = .object ms ∧ Signs trust secret ms := by
  cases hs : trust.effectiveSecret secret with
  | none =>
    rw [authenticate_ok_iff, check, hmac, hs] at h
    cases h
  | some s =>
    rcases outcome_authenticate_hmac hs false r now with ⟨hcarries, -⟩ | ⟨-, _, _, herror⟩
    · cases hcarries with
      | @standard key message ms t octets payload signature filled form digits =>
        exact ⟨ms, payload, .mk ((effectiveSecret_eq_some_iff trust secret s).mp hs) octets
          signature filled ((Signature.canonical_erase ms).trans form) digits⟩
    · cases h.symm.trans herror

/-! ## 2. Two tables of methods -/

/-- What a validator makes of an object. -/
def judged (validator : Validator) (ms : Members) : Except Fault (Option Members) :=
  match validator (.object ms) with
  | .ok fields => .ok (some fields)
  | .error fault => .error (validationFault fault)

/-- An object that is picked as input is what the validator is given. -/
theorem validate_of_input {e : Endpoint} {validator : Validator}
    (hvalidator : e.validator = some validator) {r : Request} {ms : Members}
    (h : input e.method r = .object ms) (identity : Identity) :
    e.validate { r with identity } = judged validator ms := by
  have hinput : input e.method { r with identity } = .object ms := h
  rw [validate, hvalidator, hinput]
  rfl

/-- **A method that signs its input** picks the same object for both. -/
theorem input_of_signsInput {method : Method} (hmethod : method.SignsInput) {r : Request}
    (hr : r.method = method.name) {ms : Members} (h : signedPayload r = .object ms) :
    input method r = .object ms := by
  rw [signedPayload, hr] at h
  have hbody : method.readsQuery = false → r.jsonBody = .object ms →
      input method r = .object ms := by
    intro hreads hjson
    rw [input, hreads, hjson]
    rfl
  cases method with
  | get => exact h
  | post => exact hbody rfl h
  | put => exact hbody rfl h
  | patch => exact hbody rfl h
  | delete => exact absurd rfl hmethod.1
  | head => exact absurd rfl hmethod.2

/-- Any other method signs its body and has its input in the query. -/
theorem input_of_not_signsInput {method : Method} (hmethod : ¬ method.SignsInput) {r : Request}
    (hr : r.method = method.name) {ms : Members} (h : signedPayload r = .object ms) :
    r.jsonBody = .object ms ∧ input method r = .object r.queryMembers := by
  rw [signedPayload, hr] at h
  cases method with
  | delete => exact ⟨h, rfl⟩
  | head => exact ⟨h, rfl⟩
  | _ => exact absurd ⟨by decide, by decide⟩ hmethod

/-! ## 3. At an endpoint -/

/-- **What is validated was signed**, for every method that signs its input: the object whose
signature was accepted is the input, and the validator is given it.  For the others the signature
that was accepted is that of the body, and the validator is given the query. -/
theorem validate_signed {e : Endpoint} {secret : Option Text} {validator : Validator}
    (hstrategy : e.strategy = .hmac secret false) (hvalidator : e.validator = some validator)
    {trust : Trust} {r : Request} {now : Instant} (hr : r.method = e.method.name) {p : Principal}
    (h : (authenticate trust e.strategy r now).outcome = .ok p) :
    ∃ ms, presented false r
        = (.json (.object (Members.erase "signature" ms)), Members.getD ms "signature")
      ∧ Signs trust secret ms
      ∧ (e.method.SignsInput → input e.method r = .object ms
        ∧ ∀ identity, e.validate { r with identity } = judged validator ms)
      ∧ (¬ e.method.SignsInput → r.jsonBody = .object ms
        ∧ input e.method r = .object r.queryMembers
        ∧ ∀ identity, e.validate { r with identity } = judged validator r.queryMembers) := by
  rw [hstrategy] at h
  obtain ⟨ms, hpayload, hsigns⟩ := signs_of_authenticated h
  refine ⟨ms, presented_standard hpayload, hsigns, ?_, ?_⟩
  · intro hmethod
    have hinput := input_of_signsInput hmethod hr hpayload
    exact ⟨hinput, validate_of_input hvalidator hinput⟩
  · intro hmethod
    obtain ⟨hjson, hinput⟩ := input_of_not_signsInput hmethod hr hpayload
    exact ⟨hjson, hinput, validate_of_input hvalidator hinput⟩

/-- Takes a text to search for. -/
def searchValidator : Validator := validatorOf ⟨"Search", [⟨"q", .text, none⟩]⟩

/-- An endpoint whose callers sign a text. -/
def signedSearch (method : Method) : Endpoint where
  path := "/search"
  method := method
  handler := fun ctx notes => (.ok (.object (ctx.payload.getD [])), notes)
  strategy := .hmac none false
  validator := some searchValidator

/-- A request with a signed text in its body and another text in its query. -/
def searchRequest (method : Method) : Request where
  method := method.name
  path := "/search"
  query := "q=unsigned"
  headers := []
  body := Bytes.ofAscii (("\x7b\"q\":\"signed\",\"signature\":" : Text)
    ++ "\"dc7edb836025209d7d074c95dda6f0f7f2b4ccbfb2a1a8f6ebb1adb85fac20fd\"\x7d")
  tls := .null
  client := none
  identity := .absent

theorem validate_signed_search :
    (signedSearch .post).strategy = .hmac none false
      ∧ (signedSearch .post).validator = some searchValidator
      ∧ (searchRequest .post).method = (signedSearch .post).method.name
      ∧ (∃ p, (authenticate sharedSecretTrust (signedSearch .post).strategy (searchRequest .post)
          0).outcome = .ok p)
      ∧ ∃ ms, presented false (searchRequest .post)
          = (.json (.object (Members.erase "signature" ms)), Members.getD ms "signature")
        ∧ Signs sharedSecretTrust none ms
        ∧ input .post (searchRequest .post) = .object ms ∧ ∀ identity,
          (signedSearch .post).validate { searchRequest .post with identity }
            = judged searchValidator ms := by
  obtain ⟨p, hok, -⟩ := ok_of_map_toOption (f := Principal.kind) (b := .hmac)
    (x := (authenticate sharedSecretTrust (signedSearch .post).strategy (searchRequest .post)
      0).outcome) (by decide +kernel)
  obtain ⟨ms, hpresented, hsigns, hsame, -⟩ :=
    validate_signed (e := signedSearch .post) rfl rfl rfl hok
  exact ⟨rfl, rfl, rfl, ⟨p, hok⟩, ms, hpresented, hsigns, hsame ⟨by decide, by decide⟩⟩

/-- The object in its body. -/
def signedText : Members := [("q", .text "signed"), ("signature",
  .text "dc7edb836025209d7d074c95dda6f0f7f2b4ccbfb2a1a8f6ebb1adb85fac20fd")]

/-- With `DELETE` the caller is authenticated by the text in the body, and the other one in the
query is validated, although the signature does not cover it. -/
theorem validate_unsigned_delete :
    (∃ p, (authenticate sharedSecretTrust (signedSearch .delete).strategy (searchRequest .delete)
        0).outcome = .ok p)
      ∧ presented false (searchRequest .delete) = (.json (.object
        (Members.erase "signature" signedText)), Members.getD signedText "signature")
      ∧ (signedSearch .delete).validate (searchRequest .delete)
        = .ok (some [("q", .text "unsigned")])
      ∧ ∃ handed, input .delete (searchRequest .delete) = .object handed
        ∧ Signature.canonical .standard (.json (.object (Members.erase "signature" handed)))
          ≠ Signature.canonical .standard (.json (.object
            (Members.erase "signature" signedText))) := by
  obtain ⟨p, hok, -⟩ := ok_of_map_toOption (f := Principal.kind) (b := .hmac)
    (x := (authenticate sharedSecretTrust (signedSearch .delete).strategy (searchRequest .delete)
      0).outcome) (by decide +kernel)
  have hpayload : signedPayload (searchRequest .delete) = .object signedText := by decide +kernel
  have hsigned : Signature.canonical .standard (.json (.object
      (Members.erase "signature" signedText)))
        = .ok (Bytes.ofAscii "\x7b\"q\":\"signed\"\x7d") := ok_of_toOption (by decide +kernel)
  have hhanded : Signature.canonical .standard (.json (.object
      (Members.erase "signature" [("q", .text "unsigned")])))
        = .ok (Bytes.ofAscii "\x7b\"q\":\"unsigned\"\x7d") := ok_of_toOption (by decide +kernel)
  refine ⟨⟨p, hok⟩, presented_standard hpayload, ok_of_toOption (by decide +kernel),
    [("q", .text "unsigned")], by decide +kernel, ?_⟩
  rw [hsigned, hhanded]
  exact fun h => absurd (Except.ok.inj h) (by decide)

end Endpoint

end Portcullis
