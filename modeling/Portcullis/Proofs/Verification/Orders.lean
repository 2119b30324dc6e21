/-
# Orders that can be filled

An order for a verification token is filled exactly if it names an action that is not blank and, if
it is for a code, the key for the digest of the code has octets (`Fillable`).  What else could stand
in the way is the secret, which is to be usable, and the times, which are to be dates.

Within its lifetime a token that is minted is accepted by the demand for what was ordered, unless
the parties of the order are not recognised.

**Main statements.**  `issue_cases` and `honoured_of_issue`.
-/
import Portcullis.Proofs.Access.Workable
import Portcullis.Proofs.Reportable
import Portcullis.Proofs.Verification.Parties
import Portcullis.Proofs.Verification.Raised

namespace Portcullis

namespace Verification

open Token

/-! ## 1. What can be filled -/

/-- An order names an action, and if it is for a code, there are octets for the key of its
digest. -/
structure Fillable (config : Verification) (order : Order) : Prop where
  action : ∃ name, order.action = .text name ∧ name.isBlank = false
  key : order.withCode = true → config.codeKey.Whole

/-- An action is normalized unless it is blank or no text. -/
theorem normalizeAction_cases (v : Json) :
    (∃ name, v = .text name ∧ name.isBlank = false ∧ normalizeAction v = .ok name.strip.upper)
      ∨ ((¬ ∃ name, v = .text name ∧ name.isBlank = false)
        ∧ ∃ fault, normalizeAction v = .error fault ∧ fault.isWeb = false
          ∧ fault.Reportable) := by
  cases v with
  | text name =>
    cases hblank : name.isBlank with
    | false => exact Or.inl ⟨name, rfl, hblank, by simp [normalizeAction, hblank]⟩
    | true =>
      refine Or.inr ⟨?_, _, by rw [normalizeAction, hblank]; rfl, rfl,
        Fault.reportable_internal _ _⟩
      rintro ⟨_, ⟨⟩, hvisible⟩
      cases hblank.symm.trans hvisible
  | _ =>
    refine Or.inr ⟨?_, _, rfl, rfl, Fault.reportable_internal _ _⟩
    rintro ⟨_, ⟨⟩, -⟩

theorem whole_of_digits {t : Text} (h : ∀ c ∈ t, c.isAsciiDigit = true) : t.Whole := by
  intro c hc
  have hdigit := h c hc
  rw [CodePoint.isAsciiDigit, Bool.and_eq_true, decide_eq_true_eq, decide_eq_true_eq] at hdigit
  exact CodePoint.isSurrogate_of_lt (by omega)

/-! ## 2. Filling an order -/

section Issue

variable {config : Verification} {order : Order} {now : Instant} {identifier : Text}
  {source : Nat → Fin 10} {span n : Nat}

/-- The claims of a token can be written if its times can. -/
theorem mintable_claimsFor (config : Verification) (order : Order) (action identifier : Text)
    {start stop : Int} (digest : Option Text)
    (hstart : (Json.int start).integersFit = true) (hstop : (Json.int stop).integersFit = true) :
    TokenTrust.Mintable (config.claimsFor order action identifier start stop digest) := by
  rw [TokenTrust.mintable_iff, claimsFor]
  generalize order.subject = subject
  generalize orElse (config.audienceFor order.audience) none = audience
  have hatom (b : Text) : (Json.text b).nestsWithin (Json.maxDepth - 1) = true
      ∧ (Json.text b).integersFit = true := ⟨rfl, rfl⟩
  cases digest <;> cases subject <;> cases audience <;>
    simp only [List.cons_append, List.nil_append, List.append_nil, List.forall_mem_cons, hatom,
      hstart, hstop, true_and, and_true] <;>
    exact ⟨rfl, rfl, List.forall_mem_nil _⟩

/-- Integers that binary64 numbers keep exactly can be written. -/
theorem safe_lt : 2 ^ 53 < 10 ^ Text.maxDigits :=
  calc 2 ^ 53 < 10 ^ 53 := by decide
    _ ≤ 10 ^ Text.maxDigits := Nat.pow_le_pow_right (by decide) (by decide)

/-- Claims whose times are safe integers are signed, and the end is told exactly. -/
theorem deliver_of_usable (hsecret : ∃ octets, secretBytes config.secret = .ok octets)
    (order : Order) (action identifier : Text) {start stop : Int} (hstart : start.natAbs < 2 ^ 53)
    (hstop : stop.natAbs < 2 ^ 53) (code digest : Option Text) :
    ∃ minted, deliver config order action identifier start stop code digest = .ok minted
      ∧ minted.expiresAt.toRat? = some (stop : ℚ) := by
  obtain ⟨octets, hoctets⟩ := hsecret
  have hhash : Algorithm.ofName? algorithm = some (.hmac .sha256) := rfl
  obtain ⟨token, htoken⟩ := TokenTrust.mint_of_usable hhash hoctets
    (mintable_claimsFor config order action identifier digest
      (Json.integersFit_int (hstart.trans safe_lt)) (Json.integersFit_int (hstop.trans safe_lt)))
  have hexact := Double.toRat?_ofInt hstop
  rw [deliver, htoken, ok_bind]
  split
  · next hinfinite =>
    rw [hinfinite] at hexact
    cases hexact
  · exact ⟨_, rfl, hexact⟩

/-- **An order is filled** if it can be, and else it fails with no refusal, but one that can be
reported. -/
theorem issue_cases (hsecret : ∃ octets, secretBytes config.secret = .ok octets)
    (hlength : codeLength order.length = .ok n) (hspan : lifetime order.lifetime = .ok span)
    (hstart : (Instant.wholeSeconds now).natAbs < 2 ^ 53)
    (hstop : (Instant.wholeSeconds now + span).natAbs < 2 ^ 53) :
    (Fillable config order ∧ ∃ minted, config.issue order now identifier source = .ok minted
        ∧ minted.expiresAt.toRat? = some ((Instant.wholeSeconds now + span : Int) : ℚ))
      ∨ (¬ Fillable config order ∧ ∃ fault,
        config.issue order now identifier source = .error fault ∧ fault.isWeb = false
          ∧ fault.Reportable) := by
  rcases normalizeAction_cases order.action with
    ⟨name, hname, hvisible, haction⟩ | ⟨hno, fault, haction, hweb⟩
  case inr =>
    refine Or.inr ⟨fun h => hno h.action, fault, ?_, hweb⟩
    rw [issue, haction]
    rfl
  have hnamed : ∃ name, order.action = .text name ∧ name.isBlank = false := ⟨name, hname, hvisible⟩
  have hwritten : ¬ Nat.pow 10 Text.maxDigits ≤ (Instant.wholeSeconds now + span).natAbs := by
    -- The number of digits is a variable here, so that the power is not evaluated.
    have hlt := hstop.trans safe_lt
    generalize Text.maxDigits = digits at hlt ⊢
    exact Nat.not_le.mpr hlt
  have hdeliver := deliver_of_usable hsecret order name.strip.upper identifier hstart hstop
  rw [issue, haction, ok_bind, hspan, ok_bind]
  cases hwith : order.withCode with
  | false =>
    refine Or.inl ⟨⟨hnamed, fun hyes => absurd (hwith.symm.trans hyes) (by decide)⟩, ?_⟩
    simp only [Bool.false_eq_true, if_false, pure_bind, if_neg hwritten]
    exact hdeliver none none
  | true =>
    rcases codeDigest_cases (codeFrom source n) config.codeKey with
      ⟨⟨hkey, -⟩, digest, hdigest⟩ | ⟨hno, hdigest⟩
    · refine Or.inl ⟨⟨hnamed, fun _ => hkey⟩, ?_⟩
      simp only [if_true, generateCode, hlength, Except.map_ok, ok_bind, hdigest, if_neg hwritten]
      exact hdeliver (some (codeFrom source n)) (some digest)
    · refine Or.inr ⟨?_, .ofKind .encoding, ?_, rfl, Fault.reportable_plain _ _⟩
      · exact fun h => hno ⟨h.key hwith, whole_of_digits (codeFrom_spec source n).2⟩
      · simp only [if_true, generateCode, hlength, Except.map_ok, ok_bind, hdigest]
        rfl

/-! ## 3. What was ordered is accepted -/

variable {minted : Minted}

/-- What is minted can be written if the action can. -/
theorem whole_of_issue (hissue : config.issue order now identifier source = .ok minted)
    (hwhole : ∀ name, order.action = .text name → name.Whole) :
    minted.token.Whole ∧ (∀ c, minted.code = some c → c.Whole) ∧ minted.action.Whole := by
  obtain ⟨haction, hfits, span, digest, -, -, -, hmint⟩ := issue_ok hissue
  refine ⟨(ascii_of_mint hmint).whole, fun c hc => ?_, ?_⟩
  · cases hwith : order.withCode with
    | true =>
      obtain ⟨_, hcode, -, -, hdigits⟩ := hfits.ordered hwith
      obtain rfl := Option.some.inj (hc.symm.trans hcode)
      exact whole_of_digits hdigits
    | false => cases hc.symm.trans (hfits.unordered hwith)
  · obtain ⟨name, hname, -, hnormal⟩ := normalizeAction_ok haction
    rw [hnormal]
    exact Text.whole_upper fun c hc => hwhole name hname c (Text.mem_of_mem_strip hc)

/-- The parties that are recognised have no pairs of surrogates in them, and neither has a text that
can be written. -/
theorem pairFree_of_recognised (h : ¬ Unrecognised config order) {action : Text}
    (haction : action.Whole) {subject : Json}
    (hsubject : subject = .null ∨ subject = .ofText? order.subject)
    (hwhole : ∀ s, order.subject = some s → s.Whole) : PairFree config order action subject where
  action := haction.unpaired
  issuer := not_not.mp fun hpair => h (.issuerPair hpair)
  audience a ha := not_not.mp fun hpair => h (.audiencePair ha hpair)
  subject s hs := by
    rcases hsubject with rfl | rfl
    · cases hs
    · cases hordered : order.subject with
      | none =>
        rw [hordered] at hs
        cases hs
      | some t =>
        rw [hordered] at hs
        obtain rfl := Json.text.inj hs
        exact (hwhole t hordered).unpaired

/-- A code is presented if one was ordered. -/
theorem CodeFits.passes (h : CodeFits order minted.code) (config : Verification)
    (action subject : Json) (t : Instant) :
    Passes config (order.demand minted action subject) minted.token t .codePresent := by
  intro hrequire
  obtain ⟨c, hc, -, hleast, -⟩ := h.ordered hrequire
  exact ⟨c, hc, List.ne_nil_of_length_pos (by omega)⟩

/-- What was minted for an order is accepted for its action by the demand for it, or it is not
accepted and the parties of the order are not recognised. -/
inductive Honoured (config : Verification) (order : Order) (minted : Minted)
    (action subject : Json) (t : Instant) : Prop
  | accepted {accepted : Accepted} (recognised : ¬ Unrecognised config order)
      (verified : config.verify (order.demand minted action subject) minted.token t = .ok accepted)
      (same : accepted.action = minted.action) : Honoured config order minted action subject t
  | refused {fault : Fault} (unrecognised : Unrecognised config order)
      (failed : config.verify (order.demand minted action subject) minted.token t = .error fault) :
      Honoured config order minted action subject t

/-- **Within its lifetime a minted token is accepted** for the action that was ordered, unless its
parties are not recognised. -/
theorem honoured_of_issue (hissue : config.issue order now identifier source = .ok minted)
    (hidentifier : Text.Ascii identifier) (hidentifierNe : identifier ≠ []) (hnow : 0 ≤ now)
    (hspan : order.lifetime = .int span) (hwhole : minted.action.Whole)
    (hwholeSubject : ∀ s, order.subject = some s → s.Whole) {action subject : Json}
    (haction : action = order.action ∨ action = .text minted.action)
    (hsubject : subject = .null ∨ subject = .ofText? order.subject) {t : Instant} (ht : now ≤ t)
    (hlt : t < (Instant.wholeSeconds now + span : Int)) :
    Honoured config order minted action subject t := by
  obtain ⟨hnormal, hfits, span', digest, hspan', -, hdigests, hmint⟩ := issue_ok hissue
  have hpresent := hfits.passes config action subject t
  have hissuer : (order.demand minted action subject).issuer = order.issuer := rfl
  have haudience : (order.demand minted action subject).audience = order.audience := rfl
  rcases decoded_issued hissue hidentifierNe hspan hissuer haudience
    ((Instant.wholeSeconds_le hnow).trans ht) hlt with
      ⟨hparties, claims, hclaims, -⟩ | ⟨hparties, flaw, hflaw⟩
  case inr => exact .refused hparties (verify_of_flaw hpresent hflaw)
  obtain rfl := claims_of_read_minted rfl hmint hclaims
  have hfree := pairFree_of_recognised hparties hwhole hsubject hwholeSubject
  have hread := hfree.inscribed (fun he => hparties (.emptyAudience he)) hidentifier hdigests
    (Instant.wholeSeconds now) (Instant.wholeSeconds now + span')
  have hend := (timed_claimsFor config order minted.action identifier (Instant.wholeSeconds now)
    (Instant.wholeSeconds now + span') digest).expiry_readBack
  have hdemanded : normalizeAction action = .ok minted.action := by
    rcases haction with rfl | rfl
    · exact hnormal
    · exact normalizeAction_text hnormal
  have hcode : Digests config (order.demand minted action subject).code digest := hdigests
  have hjudge := judge_inscribed hread hend (normalizeAction_ne_nil hnormal) hidentifierNe
    hdemanded hcode rfl (hfree.subject_fits hsubject)
  exact .accepted hparties ((verify_of_decoded hpresent hclaims).trans hjudge) rfl

end Issue

end Verification

end Portcullis
