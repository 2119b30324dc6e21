/-
# Actions as tokens name them

Of an action a token names the trimmed capitals.  They stand for it (`StandsFor`): they are not
empty, have no blanks at their ends and stand for themselves, and blanks around the action make no
difference to them.  Capitals may be more letters than there were, as those of the sharp `s` are.

So what was minted may be demanded: a demand for the action that was handed out with a token decides
as a demand for none (`MayBeDemanded`).  The exception is an action with a pair of surrogates in it,
which is joined when the token is read, so that its own token is refused.

**Main statement.**  `normalizeAction_standsFor`.
-/
import Portcullis.Proofs.Verification.Accepted
import Portcullis.Proofs.Verification.Parties

namespace Portcullis

namespace Verification

/-! ## 1. What stands for an action -/

/-- The text stands for an action that is given: it is filled, trimmed and its own normal form, and
the normal form of the given one with any blanks around it. -/
structure StandsFor (action given : Text) : Prop where
  filled : action ≠ []
  trimmed : Text.Trimmed action
  settled : normalizeAction (.text action) = .ok action
  padded : ∀ t, Text.Padded given t → normalizeAction (.text t) = .ok action

/-- Blanks around an action are not named. -/
theorem normalizeAction_of_padded {given t action : Text} (hpadded : Text.Padded given t)
    (h : normalizeAction (.text given) = .ok action) : normalizeAction (.text t) = .ok action := by
  obtain ⟨_, ⟨⟩, hvisible, rfl⟩ := normalizeAction_ok h
  have hblank := hpadded.isBlank_eq_false hvisible
  simp only [normalizeAction, hblank, Bool.false_eq_true, if_false, hpadded.strip_eq_strip]

theorem standsFor_of_normalizeAction {given action : Text}
    (h : normalizeAction (.text given) = .ok action) : StandsFor action given where
  filled := normalizeAction_ne_nil h
  trimmed := by
    obtain ⟨_, ⟨⟩, -, rfl⟩ := normalizeAction_ok h
    exact Text.trimmed_upper (Text.trimmed_strip given)
  settled := normalizeAction_text h
  padded _ hpadded := normalizeAction_of_padded hpadded h

/-! ## 2. Demands for an action -/

/-- The demand with another action to be expected. -/
def Demand.expecting (demand : Demand) (action : Json) : Demand := { demand with action }

/-- Of the same token the same is read, whatever action is expected. -/
theorem readToken_expecting (config : Verification) (demand : Demand) (action : Json) (token : Text)
    (now : Instant) :
    config.readToken (demand.expecting action) token now = config.readToken demand token now := rfl

/-- Claims are judged the same when the action in them is expected as when none is. -/
theorem judge_expecting (config : Verification) (demand : Demand) {claims : Members} {action : Text}
    (hact : claims.get? "act" = some (.text action))
    (hsettled : normalizeAction (.text action) = .ok action) :
    config.judge (demand.expecting (.text action)) claims
      = config.judge (demand.expecting .null) claims := by
  rw [judge, judge]
  cases hidentity : readIdentity claims with
  | error fault => rfl
  | ok identity =>
    obtain ⟨found, identifier⟩ := identity
    obtain rfl : action = found :=
      Json.text.inj (Option.some.inj (hact.symm.trans (readIdentity_ok hidentity).1.1))
    have hcheck : checkAction (demand.expecting (.text action)) action = .ok () :=
      checkAction_of_normalized hsettled
    have hnone : checkAction (demand.expecting .null) action = .ok () := rfl
    rw [ok_bind, ok_bind]
    simp only [hcheck, hnone]
    rfl

/-- Another action than the one in the claims is refused before all else in them. -/
theorem judge_expecting_other (config : Verification) (demand : Demand) {claims : Members}
    {found identifier action : Text} (hidentity : readIdentity claims = .ok (found, identifier))
    (hsettled : normalizeAction (.text action) = .ok action) (hne : found ≠ action) :
    config.judge (demand.expecting (.text action)) claims
      = .error (mismatch "Verification action mismatch"
        [("expected", .text action), ("actual", .text found)]) := by
  have hcheck : checkAction (demand.expecting (.text action)) found
      = .error (mismatch "Verification action mismatch"
        [("expected", .text action), ("actual", .text found)]) := by
    have hnotNull : (demand.expecting (.text action)).action.isNull = false := rfl
    have hexpected : normalizeAction (demand.expecting (.text action)).action = .ok action :=
      hsettled
    rw [checkAction, hnotNull, hexpected]
    exact if_neg hne
  rw [judge, hidentity, ok_bind]
  simp only [hcheck]
  rfl

/-! ## 3. Demands for the action of a token -/

/-- The action that was handed out with a token may be demanded of it: for whoever reads the token,
and whatever else is demanded, that decides nothing, and it is the action that is accepted. -/
structure MayBeDemanded (minted : Minted) : Prop where
  same : ∀ (reader : Verification) (demand : Demand) (t : Instant),
    reader.verify (demand.expecting (.text minted.action)) minted.token t
      = reader.verify (demand.expecting .null) minted.token t
  accepted : ∀ (reader : Verification) (demand : Demand) (t : Instant) (found : Accepted),
    reader.verify demand minted.token t = .ok found → found.action = minted.action

section Minted

variable {config : Verification} {order : Order} {now : Instant} {identifier : Text}
  {source : Nat → Fin 10} {minted : Minted}

theorem mayBeDemanded_of_unpaired
    (hissue : config.issue order now identifier source = .ok minted)
    (hpair : minted.action.Unpaired) : MayBeDemanded minted := by
  have hsettled := normalizeAction_text (issue_ok hissue).1
  have hjoined := Text.joined_eq_self hpair
  refine ⟨fun reader demand t => ?_, fun reader demand t found hfound => ?_⟩
  -- Whether a code is missing and what is read do not depend on the action that is expected.
  · rw [verify, verify, readToken_expecting, readToken_expecting]
    have hcode : ∀ action, ((demand.expecting action).requireCode
        && (givenCode (demand.expecting action)).isNone)
          = (demand.requireCode && (givenCode demand).isNone) := fun _ => rfl
    rw [hcode, hcode]
    cases hread : reader.readToken demand minted.token t with
    | error fault => rfl
    | ok claims =>
      have hact := act_of_decoded_issued hissue (readToken_ok hread)
      rw [hjoined] at hact
      exact congrArg (ite _ _) (judge_expecting reader demand hact hsettled)
  · rw [action_of_verify_issued hissue hfound, hjoined]

/-- **An action with a pair of surrogates may not be demanded**: in the token that is read the pair
is joined. -/
theorem verify_expecting_pair (hissue : config.issue order now identifier source = .ok minted)
    (hpair : ¬ minted.action.Unpaired) {reader : Verification} {demand : Demand} {t : Instant}
    (hpresent : Passes reader demand minted.token t .codePresent) {claims : Members}
    (hclaims : reader.decoded demand minted.token t = .ok claims)
    (hnamed : ∃ named, readIdentity claims = .ok named) :
    reader.verify (demand.expecting (.text minted.action)) minted.token t
      = .error (mismatch "Verification action mismatch"
        [("expected", .text minted.action), ("actual", .text minted.action.joined)]) := by
  obtain ⟨⟨found, identifier⟩, hidentity⟩ := hnamed
  have hact := act_of_decoded_issued hissue hclaims
  obtain rfl : minted.action.joined = found :=
    Json.text.inj (Option.some.inj (hact.symm.trans (readIdentity_ok hidentity).1.1))
  have hpresent' : Passes reader (demand.expecting (.text minted.action)) minted.token t
      .codePresent := hpresent
  have hclaims' : reader.decoded (demand.expecting (.text minted.action)) minted.token t
      = .ok claims := hclaims
  rw [verify_of_decoded hpresent' hclaims']
  exact judge_expecting_other reader demand hidentity (normalizeAction_text (issue_ok hissue).1)
    (mt (Text.joined_eq_self_iff _).mp hpair)

end Minted

/-- A token for the two halves of a code point is refused when this action is demanded of it. -/
theorem verify_expecting_twoHalves :
    normalizeAction (.text Text.twoHalves) = .ok Text.twoHalves
      ∧ ∃ minted, (resetConfig none).issue { codelessOrder with action := .text Text.twoHalves } 0
          "1" digitsInTurn = .ok minted
        ∧ minted.action = Text.twoHalves
        ∧ (resetConfig none).verify { action := .text minted.action } minted.token 50
          = .error (mismatch "Verification action mismatch" [("expected", .text Text.twoHalves),
            ("actual", .text [CodePoint.ofNat 0x1F600])]) := by
  have hnormal : normalizeAction (.text Text.twoHalves) = .ok Text.twoHalves :=
    ok_of_toOption (by decide +kernel)
  obtain ⟨minted, hissue⟩ : ∃ minted, (resetConfig none).issue
      { codelessOrder with action := .text Text.twoHalves } 0 "1" digitsInTurn = .ok minted :=
    exists_ok_of_toOption (by decide +kernel)
  have haction : minted.action = Text.twoHalves :=
    Except.ok.inj ((issue_ok hissue).1.symm.trans hnormal)
  have hspan : codelessOrder.lifetime = .int (300 : Nat) := rfl
  have hrecognised : ¬ Unrecognised (resetConfig none)
      { codelessOrder with action := .text Text.twoHalves } := by
    intro h
    cases h with
    | emptyAudience h => cases h
    | issuerPair h => exact h (by decide)
    | audiencePair h _ => cases h
  have hissuer : ({} : Demand).issuer = codelessOrder.issuer := rfl
  have haudience : ({} : Demand).audience = codelessOrder.audience := rfl
  have hbegun : (Instant.wholeSeconds 0 : Rat) ≤ 50 := by decide +kernel
  have hlasting : (50 : Rat) < (Instant.wholeSeconds 0 + (300 : Nat) : Int) := by decide +kernel
  rcases decoded_issued hissue (by decide) hspan hissuer haudience hbegun hlasting with
    ⟨-, claims, hclaims, hnamed⟩ | ⟨hparties, -⟩
  · have hrefused := verify_expecting_pair hissue (by rw [haction]; decide) (by rintro ⟨⟩) hclaims
      hnamed
    refine ⟨hnormal, minted, hissue, haction, hrefused.trans ?_⟩
    rw [haction]
    rfl
  · exact absurd hparties hrecognised

/-! ## 4. From what is given to what may be demanded -/

/-- **What an action is normalized to stands for it**, and may be demanded of every token that is
minted for it, unless a pair of surrogates is in it. -/
theorem normalizeAction_standsFor {given action : Text}
    (h : normalizeAction (.text given) = .ok action) :
    StandsFor action given
      ∧ ∀ (config : Verification) (order : Order) (now : Instant) (identifier : Text)
          (source : Nat → Fin 10) (minted : Minted), order.action = .text given →
        config.issue order now identifier source = .ok minted →
          minted.action = action ∧ (action.Unpaired → MayBeDemanded minted) := by
  refine ⟨standsFor_of_normalizeAction h, ?_⟩
  intro config order now identifier source minted hordered hissue
  have hnormal := (issue_ok hissue).1
  rw [hordered] at hnormal
  obtain rfl := Except.ok.inj (hnormal.symm.trans h)
  exact ⟨rfl, mayBeDemanded_of_unpaired hissue⟩

/-- An order for an action with a sharp `s` and blanks around it. -/
def sharpOrder : Order where
  action := .text " straße\t"
  withCode := false

theorem normalizeAction_sharpOrder :
    normalizeAction (.text " straße\t") = .ok "STRASSE"
      ∧ StandsFor "STRASSE" " straße\t"
      ∧ ∃ minted, (resetConfig none).issue sharpOrder 0 "1" digitsInTurn = .ok minted
        ∧ minted.action = "STRASSE" ∧ Text.Unpaired "STRASSE" ∧ MayBeDemanded minted
        ∧ ∃ found, (resetConfig none).verify { action := .text minted.action } minted.token 50
          = .ok found := by
  have hnormal : normalizeAction (.text " straße\t") = .ok "STRASSE" :=
    ok_of_toOption (by decide +kernel)
  obtain ⟨minted, hissue⟩ : ∃ minted,
      (resetConfig none).issue sharpOrder 0 "1" digitsInTurn = .ok minted :=
    exists_ok_of_toOption (by decide +kernel)
  have hpair : Text.Unpaired "STRASSE" := by decide
  obtain ⟨hstands, hminted⟩ := normalizeAction_standsFor hnormal
  obtain ⟨haction, hdemanded⟩ := hminted _ _ _ _ _ _ rfl hissue
  have haccepted : (((resetConfig none).issue sharpOrder 0 "1" digitsInTurn).toOption.bind
      fun minted => ((resetConfig none).verify { action := .text minted.action } minted.token
        50).toOption).isSome = true := by decide +kernel
  rw [hissue] at haccepted
  exact ⟨hnormal, hstands, minted, hissue, haction, hpair, hdemanded hpair,
    exists_ok_of_toOption haccepted⟩

end Verification

end Portcullis
