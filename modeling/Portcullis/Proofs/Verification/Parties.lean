/-
# Whether minting and verifying agree on the parties

A verification token is minted for an effective issuer and an effective audience, and verified by
the same configuration for the same ones.  Within its lifetime its bearer is unknown in three cases
alone (`Unrecognised`).  The audience is empty: then none is written, although one is demanded.  Or
the issuer or the audience holds a pair of surrogates, which is joined when the token is read.

What else a token is checked for never makes its bearer unknown: other codes and statuses stand for
the action, the subject and the code.

**Main statement.**  `verify_issued_unauthorized_iff`.
-/
import Portcullis.Proofs.Verification.Accepted
import Portcullis.Proofs.Verification.Faults

namespace Portcullis

/-! ## 1. Statuses -/

/-- The status of a refusal. -/
def Fault.status? : Fault → Option Int
  | .web _ _ status .. => some status
  | _ => none

/-- A fault is the refusal of a bearer who is not known. -/
def Fault.IsUnauthorized (fault : Fault) : Prop := fault.status? = some 401

/-- A result is such a refusal. -/
def Unauthorized {α : Type} (result : Except Fault α) : Prop :=
  ∃ fault, result = .error fault ∧ fault.IsUnauthorized

theorem not_unauthorized {α : Type} {result : Except Fault α}
    (h : FailsOnly (¬ Fault.IsUnauthorized ·) result) : ¬ Unauthorized result := by
  rintro ⟨fault, herror, hfault⟩
  exact h fault herror hfault

namespace Verification

open Token

/-- Whoever's claims are disputed is known. -/
theorem Disputes.not_isUnauthorized {fault : Fault} (h : Disputes fault) :
    ¬ fault.IsUnauthorized := by
  cases h <;> rintro ⟨⟩

/-! ## 2. The parties -/

/-- The parties of an order are not recognised in its token: an empty audience is demanded but not
written, and a name with a pair of surrogates is read with the pair joined. -/
inductive Unrecognised (config : Verification) (order : Order) : Prop
  | emptyAudience (h : config.audienceFor order.audience = some [])
  | issuerPair (h : ¬ (config.issuerFor order.issuer).Unpaired)
  | audiencePair {a : Text} (h : config.audienceFor order.audience = some a)
      (hpair : ¬ a.Unpaired)

section Parties

variable {config : Verification} {order : Order} {demand : Demand} {claims : Members}
  {action identifier : Text} {digest subject : Option Text}

/-- What is read of the parties of an order. -/
abbrev InscribedJoined (config : Verification) (order : Order) (claims : Members)
    (action identifier : Text) (digest subject : Option Text) : Prop :=
  Inscribed claims action identifier (config.issuerFor order.issuer).joined digest subject
    ((orElse (config.audienceFor order.audience) none).map Text.joined)

/-- Parties that are recognised suit the demand for them. -/
theorem suits_of_recognised (h : ¬ Unrecognised config order)
    (hread : InscribedJoined config order claims action identifier digest subject)
    (hissuer : demand.issuer = order.issuer) (haudience : demand.audience = order.audience) :
    Suits (config.expectations demand) claims := by
  have hempty : config.audienceFor order.audience ≠ some [] := fun he => h (.emptyAudience he)
  have hname : (config.issuerFor order.issuer).joined = config.issuerFor order.issuer :=
    Text.joined_eq_self (not_not.mp fun hpair => h (.issuerPair hpair))
  have hstamp : (config.audienceFor order.audience).map Text.joined
      = config.audienceFor order.audience := by
    cases ha : config.audienceFor order.audience with
    | none => rfl
    | some a =>
      rw [Option.map_some, Text.joined_eq_self (not_not.mp fun hpair => h (.audiencePair ha hpair))]
  rw [InscribedJoined, hname, orElse_none_of_ne hempty, hstamp, ← hissuer, ← haudience] at hread
  exact suits_of_inscribed (haudience ▸ hempty) hread

/-- Parties that fit the demand for them are recognised. -/
theorem recognised_of_fits
    (hread : InscribedJoined config order claims action identifier digest subject)
    (hissuer : demand.issuer = order.issuer) (haudience : demand.audience = order.audience)
    (hfits : FitsParties (config.expectations demand) claims) : ¬ Unrecognised config order := by
  have hnames : ∀ a, config.audienceFor order.audience = some a → Names claims a := by
    intro a ha
    refine hfits.audience a ?_
    rw [expectations, haudience, ha]
    rfl
  intro h
  cases h with
  | emptyAudience h =>
    have hnone := hread.audience
    rw [h] at hnone
    rcases hnames [] h with htext | ⟨items, hlist, -⟩
    · cases hnone.symm.trans htext
    · cases hnone.symm.trans hlist
  | issuerPair hpair =>
    have hclaimed := hfits.issuer (config.issuerFor order.issuer) (by rw [← hissuer]; rfl)
    have hjoined := Json.text.inj (Option.some.inj (hread.issuer.symm.trans hclaimed))
    exact hpair ((Text.joined_eq_self_iff _).mp hjoined)
  | @audiencePair a h hpair =>
    have hne : config.audienceFor order.audience ≠ some [] := by
      intro hempty
      obtain rfl := Option.some.inj (h.symm.trans hempty)
      exact hpair List.isChain_nil
    have hsome := hread.audience
    rw [orElse_none_of_ne hne, h] at hsome
    rcases hnames a h with htext | ⟨items, hlist, -⟩
    · have hjoined := Json.text.inj (Option.some.inj (hsome.symm.trans htext))
      exact hpair ((Text.joined_eq_self_iff _).mp hjoined)
    · cases hsome.symm.trans hlist

end Parties

/-! ## 3. From minting to verifying -/

section Issued

variable {config : Verification} {order : Order} {now : Instant} {identifier : Text}
  {source : Nat → Fin 10} {minted : Minted} {demand : Demand} {span : Nat} {t : Instant}

/-- Within its lifetime a minted token is read exactly if its parties are recognised; what is read
names an action and an identifier, and else it has a flaw. -/
theorem decoded_issued (hissue : config.issue order now identifier source = .ok minted)
    (hidentifier : identifier ≠ []) (hspan : order.lifetime = .int span)
    (hissuer : demand.issuer = order.issuer) (haudience : demand.audience = order.audience)
    (ht : (Instant.wholeSeconds now : Rat) ≤ t)
    (hlt : t < (Instant.wholeSeconds now + span : Int)) :
    (¬ Unrecognised config order ∧ ∃ claims, config.decoded demand minted.token t = .ok claims
        ∧ ∃ named, readIdentity claims = .ok named)
      ∨ (Unrecognised config order
        ∧ ∃ flaw, config.decoded demand minted.token t = .error (.token flaw)) := by
  obtain ⟨haction, -, span', digest, hspan', -, -, hmint⟩ := issue_ok hissue
  obtain rfl : span = span' := by
    have heq := Json.int.inj (hspan.symm.trans hspan')
    omega
  have htimed := timed_claimsFor config order minted.action identifier (Instant.wholeSeconds now)
    (Instant.wholeSeconds now + span) digest
  have hthere := present_claimsFor config order minted.action identifier
    (Instant.wholeSeconds now) (Instant.wholeSeconds now + span) digest
  have hread := (inscribed_claimsFor config order minted.action identifier
    (Instant.wholeSeconds now) (Instant.wholeSeconds now + span) digest).readBack htimed.names
  have hhash : Algorithm.ofName? algorithm = some (.hmac .sha256) := rfl
  generalize config.claimsFor order minted.action identifier (Instant.wholeSeconds now)
    (Instant.wholeSeconds now + span) digest = claims at htimed hthere hread hmint
  have hne : ∀ {u : Text}, u ≠ [] → u.joined ≠ [] := fun hu hjoined =>
    hu ((Text.joined_eq_iff (List.forall_mem_nil _) _).mp hjoined)
  by_cases hparties : Unrecognised config order
  · refine Or.inr ⟨hparties, ?_⟩
    rw [decoded, read_mint hhash hmint]
    rcases liftFlaw_cases (checkClaims (config.expectations demand) t (claims.readBack .ascii)) with
      ⟨_, hok, -⟩ | ⟨flaw, herror⟩
    · exact absurd hparties
        (recognised_of_fits hread hissuer haudience (inTime_of_checkClaims hok).2)
    · exact ⟨flaw, by rw [herror]; rfl⟩
  · have hsuits := suits_of_recognised hparties hread hissuer haudience
    refine Or.inl ⟨hparties, _, htimed.read_of_lt hhash hmint hthere hsuits ht hlt,
      (minted.action.joined, identifier.joined), ?_⟩
    have hact := (filledText?_getD_iff _ "act" _).mpr
      ⟨hread.action, hne (normalizeAction_ne_nil haction)⟩
    have hjti := (filledText?_getD_iff _ "jti" _).mpr ⟨hread.identifier, hne hidentifier⟩
    rw [readIdentity, hact, hjti]

/-- **Within its lifetime the bearer of a minted token is unknown** exactly if its parties are not
recognised, unless a code that is required is missing: that is another refusal. -/
theorem verify_issued_unauthorized_iff
    (hissue : config.issue order now identifier source = .ok minted)
    (hidentifier : identifier ≠ []) (hspan : order.lifetime = .int span)
    (hissuer : demand.issuer = order.issuer) (haudience : demand.audience = order.audience)
    (ht : (Instant.wholeSeconds now : Rat) ≤ t)
    (hlt : t < (Instant.wholeSeconds now + span : Int)) :
    Unauthorized (config.verify demand minted.token t)
      ↔ Passes config demand minted.token t .codePresent ∧ Unrecognised config order := by
  by_cases hpresent : Passes config demand minted.token t .codePresent
  case neg =>
    have hverify : config.verify demand minted.token t = .error codeMissing := by
      rw [passes_codePresent_iff, Bool.not_eq_false] at hpresent
      rw [verify, hpresent, if_pos rfl]
    rw [hverify]
    refine iff_of_false (not_unauthorized (failsOnly_error ?_)) fun h => hpresent h.1
    rintro ⟨⟩
  rw [and_iff_right hpresent]
  rcases decoded_issued hissue hidentifier hspan hissuer haudience ht hlt with
    ⟨hparties, claims, hclaims, named, hnamed⟩ | ⟨hparties, flaw, hflaw⟩
  · have hjudge := (failsOnly_judge config demand hnamed).mono fun _ h => h.not_isUnauthorized
    rw [verify_of_decoded hpresent hclaims]
    exact iff_of_false (not_unauthorized hjudge) hparties
  · rw [verify_of_flaw hpresent hflaw]
    exact iff_of_true ⟨_, rfl, rfl⟩ hparties

end Issued

theorem verify_issued_resetOrder :
    ∃ minted, (resetConfig none).issue resetOrder 0 "1" digitsInTurn = .ok minted
      ∧ ¬ Unauthorized ((resetConfig none).verify (resetOrder.demand minted .null .null)
        minted.token 50) := by
  obtain ⟨minted, hissue⟩ : ∃ minted,
      (resetConfig none).issue resetOrder 0 "1" digitsInTurn = .ok minted :=
    exists_ok_of_toOption (by decide +kernel)
  refine ⟨minted, hissue, fun h => ?_⟩
  have hspan : resetOrder.lifetime = .int (300 : Nat) := rfl
  have hunknown : Unrecognised (resetConfig none) resetOrder :=
    ((verify_issued_unauthorized_iff hissue (by decide) hspan rfl rfl (by decide +kernel)
      (by decide +kernel)).mp h).2
  cases hunknown with
  | emptyAudience h => cases h
  | issuerPair h => exact h (by decide)
  | audiencePair h _ => cases h

/-- A configuration whose audience is the empty text. -/
def emptyAudienceConfig : Verification := { resetConfig none with audience := some [] }

/-- An order without a code. -/
def codelessOrder : Order where
  action := .text "reset"
  withCode := false

/-- An empty audience is demanded of a token although it was not written. -/
theorem verify_issued_emptyAudience :
    ∃ minted, emptyAudienceConfig.issue codelessOrder 0 "1" digitsInTurn = .ok minted
      ∧ emptyAudienceConfig.verify {} minted.token 50
        = .error (.web "Invalid verification token supplied" "unauthorized" 401 (.ok .null)
          .null (some (.token (.claimAbsent "aud")))) := by
  obtain ⟨minted, hissue⟩ : ∃ minted,
      emptyAudienceConfig.issue codelessOrder 0 "1" digitsInTurn = .ok minted :=
    exists_ok_of_toOption (by decide +kernel)
  obtain ⟨haction, hfits, span, digest, hspan, -, hdigests, hmint⟩ := issue_ok hissue
  obtain rfl : 300 = span := Int.ofNat.inj (Json.int.inj hspan)
  have hreset : minted.action = "RESET" := Except.ok.inj (haction.symm.trans rfl)
  rw [hfits.unordered rfl] at hdigests
  cases hdigests
  rw [hreset] at hmint
  have hflaw : emptyAudienceConfig.decoded {} minted.token 50
      = .error (.token (.claimAbsent "aud")) := by
    have hhash : Algorithm.ofName? algorithm = some (.hmac .sha256) := rfl
    rw [decoded, read_mint hhash hmint]
    rfl
  exact ⟨minted, hissue, verify_of_flaw (by rintro ⟨⟩) hflaw⟩

end Verification

end Portcullis
