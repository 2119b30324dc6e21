/-
# What an accepted verification token meets

A token that is accepted passes every check of the demand, and what is returned of it says what its
claims say.  Nothing is assumed of the demand: an action that has no normal form, or a code that
cannot be held against the digest, is never met.

The claims of a minted token are those it was minted with, whatever configuration reads it.  So it
is accepted for no other action than the one it was minted for.

**Main statements.**  `verify_ok` and `action_of_verify_issued`.
-/
import Portcullis.Proofs.Verification.Issue

namespace Portcullis

namespace Verification

/-! ## 1. One check after the other -/

theorem readToken_ok {config : Verification} {demand : Demand} {token : Text} {now : Instant}
    {claims : Members} (h : config.readToken demand token now = .ok claims) :
    config.decoded demand token now = .ok claims := by
  rw [readToken] at h
  split at h
  · cases h
  · exact h

/-- The identity that is read is that of the claims. -/
theorem readIdentity_ok {claims : Members} {action identifier : Text}
    (h : readIdentity claims = .ok (action, identifier)) :
    (claims.get? "act" = some (.text action) ∧ action ≠ [])
      ∧ claims.get? "jti" = some (.text identifier) ∧ identifier ≠ [] := by
  rcases readIdentity_cases claims with ⟨a, i, hact, hjti, hok⟩ | ⟨-, _, _, _, herror⟩
  · obtain ⟨rfl, rfl⟩ := Prod.mk.inj (Except.ok.inj (h.symm.trans hok))
    exact ⟨hact, hjti⟩
  · cases h.symm.trans herror

/-- An action that fits is demanded, unless any action is. -/
theorem checkAction_ok {demand : Demand} {action : Text}
    (h : checkAction demand action = .ok ()) :
    demand.action = .null ∨ normalizeAction demand.action = .ok action := by
  rw [checkAction] at h
  split at h
  · next hnull =>
    cases hdemanded : demand.action with
    | null => exact Or.inl rfl
    | _ =>
      rw [hdemanded] at hnull
      cases hnull
  · obtain ⟨expected, hexpected, h⟩ := bind_eq_ok h
    split at h
    · next heq => exact Or.inr (hexpected.trans (congrArg Except.ok heq.symm))
    · cases h

/-- A subject that fits is there if it has to be, and is the one that is expected. -/
theorem checkSubject_ok (config : Verification) {demand : Demand} {claims : Members}
    (h : checkSubject demand claims = .ok ()) :
    Asks config demand claims .subjectPresent ∧ Asks config demand claims .subject := by
  rcases checkSubject_cases config demand claims with
    ⟨hpresent, hfits, -⟩ | ⟨-, _, _, _, herror⟩ | ⟨-, -, _, _, _, herror⟩
  · exact ⟨hpresent, hfits⟩
  · cases h.symm.trans herror
  · cases h.symm.trans herror

/-- A code is verified exactly when one is presented, and then its digest is in the claims. -/
theorem checkCode_ok {config : Verification} {demand : Demand} {claims : Members} {verified : Bool}
    (h : config.checkCode demand (claims.getD "otp") = .ok verified) :
    verified = (givenCode demand).isSome ∧ Asks config demand claims .code := by
  simp only [Asks, ← givenCode_eq_some_iff]
  rw [checkCode] at h
  split at h
  · next hnone =>
    rw [hnone]
    exact ⟨(Except.ok.inj h).symm, fun code hcode => absurd hcode (Option.some_ne_none code).symm⟩
  · next code hcode =>
    split at h
    · next digest hbound =>
      obtain ⟨expected, hexpected, h⟩ := bind_eq_ok h
      obtain ⟨key, octets, hkey, hoctets, rfl⟩ := codeDigest_ok hexpected
      split at h
      · cases h
      split at h
      · next heq =>
        rw [hcode]
        refine ⟨(Except.ok.inj h).symm, ?_⟩
        rintro _ ⟨⟩
        exact ⟨key, octets, hkey, hoctets, heq ▸ Members.get?_of_getD hbound rfl⟩
      · cases h
    · cases h

/-- What is asked beside the code is asked by four checks. -/
theorem asks_others {config : Verification} {demand : Demand} {claims : Members}
    (hidentity : Asks config demand claims .identity) (haction : Asks config demand claims .action)
    (hpresent : Asks config demand claims .subjectPresent)
    (hsubject : Asks config demand claims .subject) :
    ∀ check, check ≠ .code → Asks config demand claims check := by
  intro check hcheck
  cases check with
  | codePresent => trivial
  | token => trivial
  | identity => exact hidentity
  | action => exact haction
  | subjectPresent => exact hpresent
  | subject => exact hsubject
  | code => exact absurd rfl hcheck

/-- Claims that are accepted meet what each check asks of them. -/
theorem judge_ok {config : Verification} {demand : Demand} {token : Text} {now : Instant}
    {claims : Members} (hdecoded : config.decoded demand token now = .ok claims)
    {accepted : Accepted} (h : config.judge demand claims = .ok accepted) :
    (∀ check, Asks config demand claims check) ∧ Says demand claims accepted
      ∧ (demand.action = .null ∨ normalizeAction demand.action = .ok accepted.action) := by
  obtain ⟨⟨action, identifier⟩, hidentity, h⟩ := bind_eq_ok h
  obtain ⟨_, hcheckAction, h⟩ := bind_eq_ok h
  obtain ⟨_, hcheckSubject, h⟩ := bind_eq_ok h
  obtain ⟨verified, hcheckCode, h⟩ := bind_eq_ok h
  obtain rfl := Except.ok.inj h
  obtain ⟨⟨hact, hactNe⟩, hjti, hjtiNe⟩ := readIdentity_ok hidentity
  obtain ⟨hpresent, hfits⟩ := checkSubject_ok config hcheckSubject
  obtain ⟨rfl, hcode⟩ := checkCode_ok hcheckCode
  have hdemanded := checkAction_ok hcheckAction
  have haction : Asks config demand claims .action := by
    intro t ht
    rcases hdemanded with hnull | hnormal
    · cases hnull.symm.trans ht
    · obtain ⟨u, hu, -, haction⟩ := normalizeAction_ok hnormal
      obtain rfl := Json.text.inj (ht.symm.trans hu)
      rw [← haction]
      exact hact
  refine ⟨?_, says_of_genuine (genuine_of_decoded hdecoded) hact hjti, hdemanded⟩
  intro check
  by_cases hcheck : check = .code
  · subst hcheck
    exact hcode
  · exact asks_others ⟨⟨action, hact, hactNe⟩, identifier, hjti, hjtiNe⟩ haction hpresent hfits
      check hcheck

/-! ## 2. What is accepted -/

/-- **A token that is accepted** passes every check, and what is returned says what its claims
say. -/
theorem verify_ok {config : Verification} {demand : Demand} {token : Text} {now : Instant}
    {accepted : Accepted} (h : config.verify demand token now = .ok accepted) :
    ∃ claims, config.decoded demand token now = .ok claims
      ∧ (∀ check, Passes config demand token now check) ∧ Says demand claims accepted
      ∧ (demand.action = .null ∨ normalizeAction demand.action = .ok accepted.action) := by
  rw [verify] at h
  split at h
  · cases h
  next hpresent =>
  obtain ⟨claims, hread, hjudge⟩ := bind_eq_ok h
  have hdecoded := readToken_ok hread
  obtain ⟨hasks, hsaid, haction⟩ := judge_ok hdecoded hjudge
  refine ⟨claims, hdecoded, ?_, hsaid, haction⟩
  intro check
  by_cases hcheck : check = .codePresent
  · subst hcheck
    exact (passes_codePresent_iff config demand token now).mpr ((Bool.not_eq_true _).mp hpresent)
  · exact (passes_iff_asks hdecoded hcheck).mpr (hasks check)

/-! ## 3. What was minted -/

section Minted

variable {issuer : Verification} {order : Order} {mintedAt : Instant} {identifier : Text}
  {source : Nat → Fin 10} {minted : Minted}

/-- Whatever configuration reads a minted token, the action in its claims is the one it was minted
for, with its pairs of surrogates joined. -/
theorem act_of_decoded_issued (hissue : issuer.issue order mintedAt identifier source = .ok minted)
    {config : Verification} {demand : Demand} {now : Instant} {claims : Members}
    (h : config.decoded demand minted.token now = .ok claims) :
    claims.get? "act" = some (.text minted.action.joined) := by
  obtain ⟨-, -, span, digest, -, -, -, hmint⟩ := issue_ok hissue
  obtain rfl := Token.claims_of_read_minted rfl hmint h
  exact ((inscribed_claimsFor issuer order minted.action identifier
    (Instant.wholeSeconds mintedAt) (Instant.wholeSeconds mintedAt + span) digest).readBack
      (uniqueNames_claimsFor _ _ _ _ _ _ _)).action

/-- **Every action that a minted token is accepted for** is the one it was minted for, with its
pairs of surrogates joined. -/
theorem action_of_verify_issued
    (hissue : issuer.issue order mintedAt identifier source = .ok minted)
    {config : Verification} {demand : Demand} {now : Instant} {accepted : Accepted}
    (h : config.verify demand minted.token now = .ok accepted) :
    accepted.action = minted.action.joined := by
  obtain ⟨claims, hdecoded, -, hsaid, -⟩ := verify_ok h
  have hact := act_of_decoded_issued hissue hdecoded
  exact Json.text.inj (Option.some.inj (hsaid.action.symm.trans hact))

end Minted

end Verification

end Portcullis
