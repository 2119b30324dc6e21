/-
# What a verification token vouches for

An endpoint that takes verification tokens names one action.  The principal that it lets through has
that action in its normal form, a code that was verified exactly if the endpoint requires one, and
the subject that is expected, where one is known (`Expects`) and the token has one; `Vouches` says
all of it.  It does not matter where in the request the token and the code stand.

A token that was minted for another action is let through at no time and with no code.  What is
compared is the action as it is read: in ASCII the halves of a code point are written like the code
point itself, so an action that holds a pair of surrogates stands for the action in which they are
joined.

**Main statement.**  `authenticate_bound_to_action`.
-/
import Portcullis.Proofs.Authentication.Outcome
import Portcullis.Proofs.Verification.Accepted

namespace Portcullis.Authentication

open Verification

/-! ## 1. What an endpoint may rely on -/

/-- The subject that is known before the token is looked at: the one that the rule resolves, and of
a rule that resolves none the subject of the principal that the request already carries. -/
inductive Expects (rule : VerificationRule) (r : Request) : Json → Prop
  | resolved {resolve : Request → Except Fault Json} {v : Json}
      (resolver : rule.subjectResolver = some resolve) (names : resolve r = .ok v)
      (known : v ≠ .null) : Expects rule r v
  | carried {p : Principal} {s : Text} (resolver : rule.subjectResolver = none)
      (identity : r.identity = .principal p) (subject : p.subject = some s) :
      Expects rule r (.text s)

/-- What the principal of a verification token says about the request. -/
structure Vouches (rule : VerificationRule) (r : Request) (p : Principal) : Prop where
  kind : p.kind = .verification
  action : ∃ action, normalizeAction (.text rule.action) = .ok action ∧ p.action = some action
  codeVerified : p.codeVerified = rule.requireCode
  subjectPresent : rule.requireSubject = true → ∃ s, p.subject = some s ∧ s ≠ []
  subject : ∀ v s, Expects rule r v → p.subject = some s → s ≠ [] → v = .text s

/-- The subject that is demanded is the one that is known. -/
theorem Expects.demanded {rule : VerificationRule} {r : Request} {v : Json}
    (h : Expects rule r v) : rule.expectedSubject r = .ok v ∧ v ≠ .null := by
  cases h with
  | resolved hresolver hnames hknown =>
    simp only [VerificationRule.expectedSubject, hresolver, hnames]
    exact ⟨rfl, hknown⟩
  | carried hresolver hidentity hsubject =>
    rw [VerificationRule.expectedSubject, hresolver, hidentity]
    simp [hsubject, Json.ofText?]

/-- A code is presented exactly to a rule that requires one. -/
theorem presents_demandOf_iff {config : Verification} {rule : VerificationRule}
    {code : Option Text} {subject : Json} {token : Text} {now : Instant}
    (hpresent : Passes config (demandOf rule code subject) token now .codePresent) :
    (∃ c, Verification.Presents (demandOf rule code subject) c) ↔ rule.requireCode = true := by
  refine ⟨?_, hpresent⟩
  rintro ⟨c, hc, -⟩
  rw [demandOf] at hc
  split at hc
  · next hrequire => exact hrequire
  · cases hc

/-- A token that meets what the endpoint demands vouches for the request. -/
theorem vouches_of_accepted {config : Verification} {rule : VerificationRule} {r : Request}
    {code : Option Text} {subject : Json} {token : Text} {now : Instant} {accepted : Accepted}
    (hsubject : rule.expectedSubject r = .ok subject)
    (h : config.verify (demandOf rule code subject) token now = .ok accepted) :
    Vouches rule r (principalOfAccepted accepted) := by
  obtain ⟨claims, hdecoded, hpasses, hsaid, haction⟩ := verify_ok h
  have hasks : ∀ check : Check, check ≠ .codePresent →
      Asks config (demandOf rule code subject) claims check :=
    fun check hcheck => (passes_iff_asks hdecoded hcheck).mp (hpasses check)
  have hclaim : ∀ s, claims.get? "sub" = some (.text s) ↔ accepted.subject = some s := by
    intro s
    rw [hsaid.subject, Option.map_eq_some_iff]
    simp
  refine ⟨rfl, ?_, ?_, ?_, ?_⟩
  · rcases haction with hnull | hnormal
    · cases hnull
    · exact ⟨accepted.action, hnormal, rfl⟩
  · have hverified := hsaid.codeVerified.trans (presents_demandOf_iff (hpasses .codePresent))
    exact Bool.eq_iff_iff.mpr hverified
  · intro hrequire
    obtain ⟨s, hs, hne⟩ := hasks .subjectPresent (by decide) hrequire
    exact ⟨s, (hclaim s).mp hs, hne⟩
  · intro v s hexpects hs hne
    obtain ⟨hdemanded, hknown⟩ := hexpects.demanded
    obtain rfl := Except.ok.inj (hsubject.symm.trans hdemanded)
    rcases hasks .subject (by decide) s ((hclaim s).mpr hs) hne with hnull | htext
    · exact absurd hnull hknown
    · exact htext

/-! ## 2. What is let through -/

/-- **Whoever is let through was vouched for**, and a token that was minted for another action lets
no one through, wherever it stands in the request, whatever code comes with it, and whatever
configurations mint it and read it. -/
theorem authenticate_bound_to_action (trust : Trust) (rule : VerificationRule) (r : Request)
    (now : Instant) :
    (∀ p, (authenticate trust (.verification rule) r now).outcome = .ok p → Vouches rule r p)
      ∧ ∀ (issuer : Verification) (order : Order) (mintedAt : Instant) (identifier : Text)
          (source : Nat → Fin 10) (minted : Minted) (action : Text),
        issuer.issue order mintedAt identifier source = .ok minted →
        LookupRule.findFirst rule.tokenRules r = .ok (some minted.token) →
        normalizeAction order.action = .ok action →
        normalizeAction (.text rule.action) ≠ .ok action.joined →
        ∀ p, (authenticate trust (.verification rule) r now).outcome ≠ .ok p := by
  simp only [authenticate_ok_iff, check, ne_eq]
  have haccepted : ∀ {p}, (verification trust rule r now).outcome = .ok p → Vouches rule r p := by
    intro p h
    obtain ⟨config, token, code, subject, accepted, -, -, -, hsubject, haccepted, rfl⟩ :=
      outcome_verification_ok h
    exact vouches_of_accepted hsubject haccepted
  refine ⟨fun p => haccepted, ?_⟩
  intro issuer order mintedAt identifier source minted action hissue hfound haction hother p h
  obtain ⟨config, token, code, subject, accepted, -, htoken, -, -, hverify, hp⟩ :=
    outcome_verification_ok h
  obtain rfl := Option.some.inj (Except.ok.inj (hfound.symm.trans htoken))
  obtain ⟨expected, hexpected, hnamed⟩ := (haccepted h).action
  have hsame : accepted.action = expected := by
    rw [hp] at hnamed
    exact Option.some.inj hnamed
  have hminted : accepted.action = action.joined := by
    rw [action_of_verify_issued hissue hverify,
      Except.ok.inj ((issue_ok hissue).1.symm.trans haction)]
  exact hother (by rw [hexpected, ← hsame, hminted])

/-- A trust in verification tokens under the secret of the configuration for resets. -/
def resetTrust : Trust where
  tokens := ⟨none, fun _ => none, []⟩
  signatureSecret := none
  static := none
  verification := some (resetConfig none)
  transport := ⟨none, none, none, [], false⟩

/-- The token of the order for a reset. -/
def orderedToken : Text :=
  ("eyJhbGciOiJIUzI1NiIsInR5cCI6IkpXVCJ9" : Text)
    ++ ".eyJhY3QiOiJSRVNFVCIsImp0aSI6IjEiLCJpc3MiOiJzZXJ2ZXItZW5naW5lIiwiaWF0IjowLCJleHAiOjMwMCwi"
    ++ "b3RwIjoiMmRiZmY4ZjdiM2JhZWYyNWIwZmJhZWRmZThjNDcxOTllYjczODdkZmZhZWZlY2U2Y2Q0NzJmM2RlYTQ0O"
    ++ "DA1ZSIsInN1YiI6Im1lIn0"
    ++ ".TKgTesCqqVmamYfoxkfPFRt48WO89vKsGHbjpiLXlDY"

/-- A request of the subject it is for, with the token in a header and the code in the query. -/
def resetRequest : Request where
  method := "POST"
  path := "/reset"
  query := "verificationOtp=%30%312345"
  headers := [("x-verification-token", orderedToken)]
  body := Bytes.ofAscii "\x7b\"verificationToken\": \"ignored\"\x7d"
  tls := .null
  client := none
  identity := .principal { kind := .jwt, subject := some "me" }

/-- The rule of an endpoint for resets. -/
def resetRule : VerificationRule where
  action := " Reset"
  requireSubject := true

/-- The rule of an endpoint for another action. -/
def deleteRule : VerificationRule where
  action := "delete"

theorem authenticate_resetRequest :
    (∃ p, (authenticate resetTrust (.verification resetRule) resetRequest 50).outcome = .ok p
        ∧ Vouches resetRule resetRequest p)
      ∧ ∃ minted, (resetConfig none).issue resetOrder 0 "1" digitsInTurn = .ok minted
        ∧ LookupRule.findFirst deleteRule.tokenRules resetRequest = .ok (some minted.token)
        ∧ normalizeAction resetOrder.action = .ok "RESET"
        ∧ normalizeAction (.text deleteRule.action) ≠ .ok (Text.joined "RESET")
        ∧ ∀ (now : Instant) (p : Principal),
          (authenticate resetTrust (.verification deleteRule) resetRequest now).outcome ≠ .ok p := by
  constructor
  · obtain ⟨p, hok, -⟩ := ok_of_map_toOption (f := Principal.codeVerified) (b := true)
      (x := (authenticate resetTrust (.verification resetRule) resetRequest 50).outcome)
      (by decide +kernel)
    exact ⟨p, hok, (authenticate_bound_to_action _ _ _ _).1 p hok⟩
  · obtain ⟨minted, hissue, htoken⟩ := ok_of_map_toOption (f := Minted.token) (b := orderedToken)
      (x := (resetConfig none).issue resetOrder 0 "1" digitsInTurn) (by decide +kernel)
    have hfound : LookupRule.findFirst deleteRule.tokenRules resetRequest
        = .ok (some minted.token) := by
      rw [htoken]
      exact ok_of_toOption (by decide +kernel)
    have haction : normalizeAction resetOrder.action = .ok "RESET" :=
      ok_of_toOption (by decide +kernel)
    have hdelete : normalizeAction (.text deleteRule.action) = .ok "DELETE" :=
      ok_of_toOption (by decide +kernel)
    have hother : normalizeAction (.text deleteRule.action) ≠ .ok (Text.joined "RESET") := by
      rw [hdelete]
      exact fun h => absurd (Except.ok.inj h) (by decide)
    exact ⟨minted, hissue, hfound, haction, hother, fun now =>
      (authenticate_bound_to_action resetTrust deleteRule resetRequest now).2 _ _ _ _ _ _ _
        hissue hfound haction hother⟩

/-- An order for an action that is the two halves of a code point. -/
def halvedActionOrder : Order where
  action := .text Text.twoHalves
  withCode := false

/-- The token for it. -/
def halvedActionToken : Text :=
  ("eyJhbGciOiJIUzI1NiIsInR5cCI6IkpXVCJ9" : Text)
    ++ ".eyJhY3QiOiJcdWQ4M2RcdWRlMDAiLCJqdGkiOiIxIiwiaXNzIjoic2VydmVyLWVuZ2luZSIsImlhdCI6MCwiZXhw"
    ++ "IjozMDB9"
    ++ ".vPxuFqxaDGodP9PYEkZ9J29t_6BqduVw57mEBg3k2aE"

/-- A request that brings it. -/
def halvedActionRequest : Request where
  method := "POST"
  path := "/reset"
  query := []
  headers := [("x-verification-token", halvedActionToken)]
  body := []
  tls := .null
  client := none
  identity := .absent

/-- The rule of an endpoint for the action that is that code point. -/
def joinedActionRule : VerificationRule where
  action := [CodePoint.ofNat 0x1F600]
  requireCode := false

/-- A token for the two halves of a code point is let through for the code point, although the two
actions have different normal forms. -/
theorem authenticate_halvedAction :
    ∃ minted, (resetConfig none).issue halvedActionOrder 0 "1" digitsInTurn = .ok minted
      ∧ LookupRule.findFirst joinedActionRule.tokenRules halvedActionRequest
        = .ok (some minted.token)
      ∧ normalizeAction (.text joinedActionRule.action) ≠ normalizeAction halvedActionOrder.action
      ∧ ∃ p, (authenticate resetTrust (.verification joinedActionRule) halvedActionRequest
          50).outcome = .ok p := by
  obtain ⟨minted, hissue, htoken⟩ := ok_of_map_toOption (f := Minted.token)
    (b := halvedActionToken) (x := (resetConfig none).issue halvedActionOrder 0 "1" digitsInTurn)
    (by decide +kernel)
  obtain ⟨p, hok, -⟩ := ok_of_map_toOption (f := Principal.codeVerified) (b := false)
    (x := (authenticate resetTrust (.verification joinedActionRule) halvedActionRequest 50).outcome)
    (by decide +kernel)
  refine ⟨minted, hissue, ?_, ?_, p, hok⟩
  · rw [htoken]
    exact ok_of_toOption (by decide +kernel)
  · have hjoined : normalizeAction (.text joinedActionRule.action)
        = .ok joinedActionRule.action := ok_of_toOption (by decide +kernel)
    have hhalved : normalizeAction halvedActionOrder.action = .ok Text.twoHalves :=
      ok_of_toOption (by decide +kernel)
    rw [hjoined, hhalved]
    exact fun h => absurd (Except.ok.inj h) (by decide)

end Portcullis.Authentication
