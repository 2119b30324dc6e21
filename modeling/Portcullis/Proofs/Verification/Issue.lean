/-
# A minted verification token is accepted

A minted token carries the action in trimmed capitals, so that the action as it was ordered and the
action as it was minted are the same demand; and it carries the digest of the code that was handed
out (`Inscribed`).  Presented with that code, for the same parties, it is accepted up to the second
it ends in, and from then on refused.

The token is read back from ASCII, so what is compared with its claims must hold no pair of
surrogates (`PairFree`); in the subject that is returned the pairs are joined.  After its end a
token is refused whatever it holds.

**Main statement.**  `verify_minted`.
-/
import Portcullis.Proofs.Text.Capitals
import Portcullis.Proofs.Token.Minting
import Portcullis.Proofs.Verification.Decision

namespace Portcullis

namespace Verification

open Token

/-! ## 1. Actions and codes -/

theorem normalizeAction_ok {v : Json} {action : Text} (h : normalizeAction v = .ok action) :
    ∃ t, v = .text t ∧ t.isBlank = false ∧ action = t.strip.upper := by
  unfold normalizeAction at h
  split at h
  · next t =>
    split at h
    · cases h
    · next hblank => exact ⟨t, rfl, (Bool.not_eq_true _).mp hblank, (Except.ok.inj h).symm⟩
  · cases h

/-- **A normalized action is its own normal form.** -/
theorem normalizeAction_text {v : Json} {action : Text} (h : normalizeAction v = .ok action) :
    normalizeAction (.text action) = .ok action := by
  obtain ⟨t, -, hblank, rfl⟩ := normalizeAction_ok h
  obtain ⟨c, hc, hvisible⟩ := Text.exists_of_isBlank hblank
  have hstrip : t.strip.isBlank = false :=
    Text.isBlank_of_mem (Text.mem_strip hc hvisible) hvisible
  have hupper := Text.isBlank_upper hstrip
  simp only [normalizeAction, hupper, Bool.false_eq_true, if_false, Text.strip_upper_strip]

theorem normalizeAction_ne_nil {v : Json} {action : Text} (h : normalizeAction v = .ok action) :
    action ≠ [] := by
  rintro rfl
  cases normalizeAction_text h

/-- A code is so many digits. -/
theorem codeFrom_spec (source : Nat → Fin 10) (n : Nat) :
    (codeFrom source n).length = n ∧ ∀ c ∈ codeFrom source n, c.isAsciiDigit = true := by
  have hdigit : ∀ d : Fin 10, (Text.decimal d.val).length = 1
      ∧ ∀ c ∈ Text.decimal d.val, c.isAsciiDigit = true := by decide
  constructor
  · have hone : ∀ i ∈ List.range n, (Text.decimal (source i).val).length = 1 := fun i _ =>
      (hdigit (source i)).1
    rw [codeFrom, List.length_flatMap, List.map_congr_left hone]
    simp
  · intro c hc
    obtain ⟨i, -, hc⟩ := List.mem_flatMap.mp hc
    exact (hdigit (source i)).2 c hc

theorem codeLength_ok {v : Json} {n : Nat} (h : codeLength v = .ok n) :
    v = .int n ∧ 4 ≤ n ∧ n ≤ 10 := by
  unfold codeLength at h
  split at h
  · next m =>
    split at h
    · next hm =>
      obtain rfl := Except.ok.inj h
      exact ⟨rfl, hm⟩
    · cases h
  · cases h

theorem lifetime_ok {v : Json} {n : Nat} (h : lifetime v = .ok n) :
    v = .int n ∧ minLifetime ≤ n := by
  unfold lifetime at h
  split at h
  · next m =>
    split at h
    · next hm =>
      obtain rfl := Except.ok.inj h
      exact ⟨rfl, hm⟩
    · cases h
  · cases h

/-- The code that is handed out with a token: so many digits as were ordered, or none. -/
structure CodeFits (order : Order) (code : Option Text) : Prop where
  ordered : order.withCode = true → ∃ c, code = some c ∧ order.length = .int c.length
    ∧ 4 ≤ c.length ∧ ∀ d ∈ c, d.isAsciiDigit = true
  unordered : order.withCode = false → code = none

/-- The digest of the code that is handed out, if there is one. -/
inductive Digests (config : Verification) : Option Text → Option Text → Prop
  | none : Digests config none none
  | some {c d : Text} (hc : c ≠ []) (h : codeDigest c config.codeKey = .ok d) :
      Digests config (some c) (some d)

theorem codeDigest_ok {code key digest : Text} (h : codeDigest code key = .ok digest) :
    ∃ k octets, key.utf8? = some k ∧ code.utf8? = some octets
      ∧ digest = Bytes.hex (Hash.sha256.hmac k octets) := by
  unfold codeDigest at h
  split at h
  · next k octets hk hoctets => exact ⟨k, octets, hk, hoctets, (Except.ok.inj h).symm⟩
  · cases h

theorem ascii_codeDigest {code key digest : Text} (h : codeDigest code key = .ok digest) :
    Text.Ascii digest := by
  obtain ⟨k, octets, -, -, rfl⟩ := codeDigest_ok h
  exact fun c hc => Nat.lt_of_le_of_lt (Text.mem_hex hc).1 (by decide)

/-- A digest holds no surrogates. -/
theorem Digests.joined {config : Verification} {code digest : Option Text}
    (h : Digests config code digest) : digest.map Text.joined = digest := by
  cases h with
  | none => rfl
  | some hc h => rw [Option.map_some, Text.joined_eq_self (ascii_codeDigest h).whole.unpaired]

theorem Digests.isSome_eq {config : Verification} {order : Order} {code digest : Option Text}
    (h : Digests config code digest) (hfits : CodeFits order code) :
    digest.isSome = order.withCode := by
  cases hwith : order.withCode with
  | true =>
    obtain ⟨c, hc, -⟩ := hfits.ordered hwith
    cases h with
    | none => cases hc
    | some _ _ => rfl
  | false =>
    have hnone := hfits.unordered hwith
    cases h with
    | none => rfl
    | some _ _ => cases hnone

/-! ## 2. What is minted -/

/-- The last steps of minting. -/
def deliver (config : Verification) (order : Order) (action identifier : Text) (start stop : Int)
    (code digest : Option Text) : Except Fault Minted := do
  let token ← Token.mint algorithm config.secret
    (config.claimsFor order action identifier start stop digest)
  match Double.ofInt stop with
  | .infinite _ => .error (.ofKind .overflow)
  | expiresAt => return ⟨token, code, expiresAt, action⟩

theorem deliver_ok {config : Verification} {order : Order} {action identifier : Text}
    {start stop : Int} {code digest : Option Text} {minted : Minted}
    (h : deliver config order action identifier start stop code digest = .ok minted) :
    minted.action = action ∧ minted.code = code
      ∧ Token.mint algorithm config.secret
        (config.claimsFor order action identifier start stop digest) = .ok minted.token := by
  obtain ⟨token, htoken, h⟩ := bind_eq_ok h
  split at h
  · cases h
  · obtain rfl := Except.ok.inj h
    exact ⟨rfl, rfl, htoken⟩

/-- What has been minted. -/
theorem issue_ok {config : Verification} {order : Order} {now : Instant} {identifier : Text}
    {source : Nat → Fin 10} {minted : Minted}
    (h : config.issue order now identifier source = .ok minted) :
    normalizeAction order.action = .ok minted.action ∧ CodeFits order minted.code
      ∧ ∃ (span : Nat) (digest : Option Text), order.lifetime = .int span ∧ minLifetime ≤ span
        ∧ Digests config minted.code digest
        ∧ Token.mint algorithm config.secret (config.claimsFor order minted.action identifier
          (Instant.wholeSeconds now) (Instant.wholeSeconds now + span) digest)
            = .ok minted.token := by
  rw [issue] at h
  obtain ⟨action, haction, h⟩ := bind_eq_ok h
  obtain ⟨span, hspan, h⟩ := bind_eq_ok h
  obtain ⟨hspan, hmin⟩ := lifetime_ok hspan
  simp only at h
  -- The last steps are the same with a code and without one; what they are given differs.
  cases hwith : order.withCode with
  | true =>
    rw [hwith, if_pos rfl] at h
    obtain ⟨code, hcode, h⟩ := bind_eq_ok h
    obtain ⟨c, hc, rfl⟩ := map_eq_ok hcode
    obtain ⟨n, hn, rfl⟩ := map_eq_ok hc
    obtain ⟨digest, hdigest, h⟩ := bind_eq_ok h
    obtain ⟨d, hd, rfl⟩ := map_eq_ok hdigest
    have hdeliver : deliver config order action identifier (Instant.wholeSeconds now)
        (Instant.wholeSeconds now + span) (some (codeFrom source n)) (some d) = .ok minted := by
      split at h
      · cases h
      · exact h
    obtain ⟨rfl, hcode, hmint⟩ := deliver_ok hdeliver
    obtain ⟨hlength, hleast, -⟩ := codeLength_ok hn
    obtain ⟨hcount, hdigits⟩ := codeFrom_spec source n
    have hfits : CodeFits order minted.code := by
      refine ⟨fun _ => ⟨_, hcode, ?_, ?_, hdigits⟩, fun hno => absurd (hwith.symm.trans hno) ?_⟩
      · rw [hcount, hlength]
      · rwa [hcount]
      · decide
    have hne : codeFrom source n ≠ [] := List.ne_nil_of_length_pos (by omega)
    have hdigests : Digests config minted.code (some d) := by
      rw [hcode]
      exact .some hne hd
    exact ⟨haction, hfits, span, some d, hspan, hmin, hdigests, hmint⟩
  | false =>
    rw [hwith, if_neg Bool.false_ne_true] at h
    have hdeliver : deliver config order action identifier (Instant.wholeSeconds now)
        (Instant.wholeSeconds now + span) none none = .ok minted := by
      simp only [pure_bind] at h
      split at h
      · cases h
      · exact h
    obtain ⟨rfl, hcode, hmint⟩ := deliver_ok hdeliver
    have hfits : CodeFits order minted.code :=
      ⟨fun hyes => absurd (hwith.symm.trans hyes) (by decide), fun _ => hcode⟩
    have hdigests : Digests config minted.code none := by
      rw [hcode]
      exact .none
    exact ⟨haction, hfits, span, none, hspan, hmin, hdigests, hmint⟩

/-- What claims say of an action: its name, and whom it is for. -/
structure Inscribed (claims : Members) (action identifier issuer : Text)
    (digest subject audience : Option Text) : Prop where
  action : claims.get? "act" = some (.text action)
  identifier : claims.get? "jti" = some (.text identifier)
  issuer : claims.get? "iss" = some (.text issuer)
  digest : claims.get? "otp" = digest.map Json.text
  subject : claims.get? "sub" = subject.map Json.text
  audience : claims.get? "aud" = audience.map Json.text

section Claims

variable (config : Verification) (order : Order) (action identifier : Text) (start stop : Int)
  (digest : Option Text)

theorem uniqueNames_claimsFor :
    Json.UniqueNames (.object (config.claimsFor order action identifier start stop digest)) := by
  unfold claimsFor
  generalize order.subject = subject
  generalize orElse (config.audienceFor order.audience) none = audience
  refine .object ?_ fun m hm => .atom ?_
  · cases digest <;> cases subject <;> cases audience <;>
      simp only [List.map_cons, List.map_nil, List.cons_append, List.nil_append,
        List.append_nil] <;> decide
  · revert m
    cases digest <;> cases subject <;> cases audience <;> simp [Json.isAtom]

theorem inscribed_claimsFor :
    Inscribed (config.claimsFor order action identifier start stop digest) action identifier
      (config.issuerFor order.issuer) digest order.subject
      (orElse (config.audienceFor order.audience) none) := by
  unfold claimsFor
  generalize order.subject = subject
  generalize orElse (config.audienceFor order.audience) none = audience
  cases digest <;> cases subject <;> cases audience <;> exact ⟨rfl, rfl, rfl, rfl, rfl, rfl⟩

theorem timed_claimsFor :
    Timed (config.claimsFor order action identifier start stop digest) start stop := by
  have hnames := uniqueNames_claimsFor config order action identifier start stop digest
  unfold claimsFor at hnames ⊢
  generalize order.subject = subject at hnames ⊢
  generalize orElse (config.audienceFor order.audience) none = audience at hnames ⊢
  cases digest <;> cases subject <;> cases audience <;> exact ⟨hnames, rfl, rfl, rfl⟩

end Claims

/-- After reading the claims say the same, with the pairs of surrogates joined. -/
theorem Inscribed.readBack {claims : Members} {action identifier issuer : Text}
    {digest subject audience : Option Text}
    (h : Inscribed claims action identifier issuer digest subject audience)
    (names : Json.UniqueNames (.object claims)) :
    Inscribed (claims.readBack .ascii) action.joined identifier.joined issuer.joined
      (digest.map Text.joined) (subject.map Text.joined) (audience.map Text.joined) := by
  have htext : ∀ {n : Text} {t : Option Text}, Text.Ascii n → claims.get? n = t.map Json.text →
      (claims.readBack .ascii).get? n = (t.map Text.joined).map Json.text := by
    intro n t hn ht
    rw [get?_readBack_ascii names hn, ht, Option.map_map, Option.map_map]
    rfl
  exact ⟨htext (t := some action) (by decide) h.action,
    htext (t := some identifier) (by decide) h.identifier,
    htext (t := some issuer) (by decide) h.issuer, htext (by decide) h.digest,
    htext (by decide) h.subject, htext (by decide) h.audience⟩

/-! ## 3. What is accepted -/

/-- The demand that is made of a minted token: its code, if there is one, and the parties it was
ordered for. -/
def Order.demand (order : Order) (minted : Minted) (action subject : Json) : Demand where
  action := action
  code := minted.code
  requireCode := order.withCode
  subject := subject
  issuer := order.issuer
  audience := order.audience

theorem checkAction_of_normalized {demand : Demand} {action : Text}
    (h : normalizeAction demand.action = .ok action) : checkAction demand action = .ok () := by
  obtain ⟨t, htext, -⟩ := normalizeAction_ok h
  have hnotNull : demand.action.isNull = false := by rw [htext]; rfl
  rw [checkAction, hnotNull, h]
  exact if_pos rfl

theorem checkSubject_of_fits {demand : Demand} {claims : Members} {subject : Option Text}
    (hclaim : claims.get? "sub" = subject.map Json.text) (hrequire : demand.requireSubject = false)
    (hfits : demand.subject = .null ∨ demand.subject = .ofText? subject) :
    checkSubject demand claims = .ok () := by
  rw [checkSubject]
  cases hfilled : filledText? (claims.getD "sub") with
  | none => simp only [hrequire, Bool.false_eq_true, if_false]
  | some s =>
    obtain ⟨hs, -⟩ := (filledText?_getD_iff claims "sub" s).mp hfilled
    obtain ⟨u, rfl, hu⟩ := Option.map_eq_some_iff.mp (hclaim.symm.trans hs)
    obtain rfl := Json.text.inj hu
    rcases hfits with hnull | htext
    · rw [hnull]
      rfl
    · rw [htext]
      exact if_pos (by simp [Json.ofText?])

theorem checkCode_of_digests {config : Verification} {demand : Demand} {digest : Option Text}
    (h : Digests config demand.code digest) {claims : Members}
    (hclaim : claims.get? "otp" = digest.map Json.text) :
    config.checkCode demand (claims.getD "otp") = .ok digest.isSome := by
  rw [Members.getD, hclaim, checkCode, givenCode]
  generalize demand.code = code at h
  cases h with
  | none => rfl
  | @some c d hc h =>
    have hascii := (Text.isAscii_iff d).mpr (ascii_codeDigest h)
    rw [(orElse_none_eq_some_iff (some c) c).mpr ⟨rfl, hc⟩]
    simp only [Option.map_some, Option.getD_some, h, ok_bind, hascii, Bool.not_true,
      Bool.false_eq_true, if_false, if_true]
    rfl

/-- Claims are accepted by a demand for what they say. -/
theorem judge_inscribed {config : Verification} {demand : Demand} {claims : Members}
    {action identifier issuer : Text} {digest subject audience : Option Text} {stop : Int}
    (h : Inscribed claims action identifier issuer digest subject audience)
    (hend : claims.get? "exp" = some (.int stop)) (hactionNe : action ≠ [])
    (hidentifierNe : identifier ≠ []) (haction : normalizeAction demand.action = .ok action)
    (hcode : Digests config demand.code digest) (hrequire : demand.requireSubject = false)
    (hsubject : demand.subject = .null ∨ demand.subject = .ofText? subject) :
    config.judge demand claims = .ok {
      action, identifier, subject
      codeBound := digest.isSome
      codeVerified := digest.isSome
      issuer := .text issuer
      expiresAt := .int stop } := by
  have hidentity : readIdentity claims = .ok (action, identifier) := by
    rw [readIdentity, (filledText?_getD_iff claims "act" action).mpr ⟨h.action, hactionNe⟩,
      (filledText?_getD_iff claims "jti" identifier).mpr ⟨h.identifier, hidentifierNe⟩]
  have hsaid : (claims.getD "sub").text? = subject := by
    rw [Members.getD, h.subject]
    cases subject <;> rfl
  have hbound : (claims.getD "otp").text?.isSome = digest.isSome := by
    rw [Members.getD, h.digest]
    cases digest <;> rfl
  rw [judge, hidentity]
  simp only [ok_bind, checkAction_of_normalized haction,
    checkSubject_of_fits h.subject hrequire hsubject, checkCode_of_digests hcode h.digest]
  rw [hsaid, hbound, Members.getD, Members.getD, h.issuer, hend]
  rfl

/-! ## 4. From minting to verifying -/

theorem orElse_none_of_ne {t : Option Text} (h : t ≠ some []) : orElse t none = t := by
  rcases t with _ | _ | ⟨c, t⟩
  · rfl
  · exact absurd rfl h
  · rfl

/-- No pair of surrogates stands in what is compared with the claims of a token. -/
structure PairFree (config : Verification) (order : Order) (action : Text) (subject : Json) :
    Prop where
  action : action.Unpaired
  issuer : (config.issuerFor order.issuer).Unpaired
  audience : ∀ a, config.audienceFor order.audience = some a → a.Unpaired
  subject : ∀ s, subject = .text s → s.Unpaired

/-- What is expected of the subject is so of the subject that is read. -/
theorem PairFree.subject_fits {config : Verification} {order : Order} {action : Text}
    {subject : Json} (h : PairFree config order action subject)
    (hsubject : subject = .null ∨ subject = .ofText? order.subject) :
    subject = .null ∨ subject = .ofText? (order.subject.map Text.joined) := by
  refine hsubject.imp_right fun hsame => ?_
  cases hordered : order.subject with
  | none => rw [hsame, hordered, Option.map_none]
  | some s =>
    have htext : subject = .text s := by
      rw [hsame, hordered]
      rfl
    rw [Option.map_some, Text.joined_eq_self (h.subject s htext), htext]
    rfl

/-- What is compared with the claims is read as it was written. -/
theorem PairFree.inscribed {config : Verification} {order : Order} {action : Text}
    {subject : Json} (h : PairFree config order action subject)
    (haudience : config.audienceFor order.audience ≠ some []) {identifier : Text}
    (hidentifier : Text.Ascii identifier) {code digest : Option Text}
    (hdigests : Digests config code digest) (start stop : Int) :
    Inscribed ((config.claimsFor order action identifier start stop digest).readBack .ascii) action
      identifier (config.issuerFor order.issuer) digest (order.subject.map Text.joined)
      (config.audienceFor order.audience) := by
  have hread := (inscribed_claimsFor config order action identifier start stop digest).readBack
    (uniqueNames_claimsFor config order action identifier start stop digest)
  have hnamed : (config.audienceFor order.audience).map Text.joined
      = config.audienceFor order.audience := by
    cases ha : config.audienceFor order.audience with
    | none => rfl
    | some a => rw [Option.map_some, Text.joined_eq_self (h.audience a ha)]
  rwa [Text.joined_eq_self h.action, Text.joined_eq_self hidentifier.whole.unpaired,
    Text.joined_eq_self h.issuer, hdigests.joined, orElse_none_of_ne haudience, hnamed] at hread

/-- Claims for the parties of a demand suit it. -/
theorem suits_of_inscribed {config : Verification} {demand : Demand} {claims : Members}
    {action identifier : Text} {digest subject : Option Text}
    (haudience : config.audienceFor demand.audience ≠ some [])
    (h : Inscribed claims action identifier (config.issuerFor demand.issuer) digest subject
      (config.audienceFor demand.audience)) :
    Suits (config.expectations demand) claims where
  issuer name hname := by
    obtain rfl := Option.some.inj hname
    exact h.issuer
  audience a ha := by
    obtain ⟨name, hname, rfl⟩ := Option.map_eq_some_iff.mp ha
    refine ⟨name, rfl, ?_, ?_⟩
    · rintro rfl
      exact haudience hname
    · rw [h.audience, hname, Option.map_some]
  subject := by
    rw [h.subject]
    cases subject with
    | none => exact Or.inl rfl
    | some s => exact Or.inr ⟨s, rfl⟩
  identifier := Or.inr ⟨identifier, h.identifier⟩

/-- The times of the claims that are written are there when they are read. -/
theorem present_claimsFor (config : Verification) (order : Order) (action identifier : Text)
    (start stop : Int) (digest : Option Text) :
    ∀ n ∈ (["exp", "iat", "iss"] : List Text),
      Present ((config.claimsFor order action identifier start stop digest).readBack .ascii) n := by
  have htimed := timed_claimsFor config order action identifier start stop digest
  have hinscribed := inscribed_claimsFor config order action identifier start stop digest
  simp only [List.forall_mem_cons]
  exact ⟨present_readBack htimed.names (by decide) htimed.expiry rfl,
    present_readBack htimed.names (by decide) htimed.issuedAt rfl,
    present_readBack htimed.names (by decide) hinscribed.issuer rfl, List.forall_mem_nil _⟩

/-- **A minted token** has the normalized action and a code as it was ordered.  It is accepted from
its issue up to the second it ends in, by the demand for its code and its parties, whether the
action is demanded as it was ordered or as it was minted and whether the subject is demanded or not;
from then on it is refused. -/
theorem verify_minted {config : Verification} {order : Order}
    (haudience : config.audienceFor order.audience ≠ some []) {identifier : Text}
    (hidentifier : Text.Ascii identifier) (hidentifierNe : identifier ≠ []) {now : Instant}
    (hnow : 0 ≤ now) {source : Nat → Fin 10} {minted : Minted}
    (hissue : config.issue order now identifier source = .ok minted) :
    normalizeAction order.action = .ok minted.action ∧ CodeFits order minted.code
      ∧ ∃ (span : Nat) (stop : Int), order.lifetime = .int span
        ∧ stop = Instant.wholeSeconds now + span
        ∧ ∀ action subject : Json, (action = order.action ∨ action = .text minted.action) →
          (subject = .null ∨ subject = .ofText? order.subject) →
            (PairFree config order minted.action subject → ∀ t : Instant, now ≤ t → t < stop →
              config.verify (order.demand minted action subject) minted.token t = .ok {
                action := minted.action
                identifier
                subject := order.subject.map Text.joined
                codeBound := order.withCode
                codeVerified := order.withCode
                issuer := .text (config.issuerFor order.issuer)
                expiresAt := .int stop })
            ∧ ∀ t : Instant, stop ≤ t →
              config.verify (order.demand minted action subject) minted.token t
                = .error (.web "Invalid verification token supplied" "unauthorized" 401 (.ok .null)
                  .null (some (.token .expired))) := by
  obtain ⟨haction, hfits, span, digest, hspan, hmin, hdigests, hmint⟩ := issue_ok hissue
  refine ⟨haction, hfits, span, Instant.wholeSeconds now + span, hspan, rfl, ?_⟩
  intro action subject hdemanded hsubject
  have hpresent : ∀ t, Passes config (order.demand minted action subject) minted.token t
      .codePresent := by
    intro t hrequire
    obtain ⟨c, hc, -, hleast, -⟩ := hfits.ordered hrequire
    exact ⟨c, hc, List.ne_nil_of_length_pos (by omega)⟩
  have htimed := timed_claimsFor config order minted.action identifier (Instant.wholeSeconds now)
    (Instant.wholeSeconds now + span) digest
  have hbound := hdigests.isSome_eq hfits
  have hthere := present_claimsFor config order minted.action identifier
    (Instant.wholeSeconds now) (Instant.wholeSeconds now + span) digest
  have hinscribed := fun hfree : PairFree config order minted.action subject =>
    hfree.inscribed haudience hidentifier hdigests (Instant.wholeSeconds now)
      (Instant.wholeSeconds now + span)
  have hhash : Algorithm.ofName? algorithm = some (.hmac .sha256) := rfl
  generalize config.claimsFor order minted.action identifier (Instant.wholeSeconds now)
    (Instant.wholeSeconds now + span) digest = claims at htimed hthere hinscribed hmint
  refine ⟨?_, ?_⟩
  · intro hfree t ht hlt
    have hsuits : Suits (config.expectations (order.demand minted action subject))
        (claims.readBack .ascii) := suits_of_inscribed haudience (hinscribed hfree)
    have hdecoded : config.decoded (order.demand minted action subject) minted.token t
        = .ok (claims.readBack .ascii) :=
      htimed.read_of_lt hhash hmint hthere hsuits ((Instant.wholeSeconds_le hnow).trans ht) hlt
    have hnormal : normalizeAction action = .ok minted.action := by
      rcases hdemanded with rfl | rfl
      · exact haction
      · exact normalizeAction_text haction
    rw [verify_of_decoded (hpresent t) hdecoded, ← hbound]
    exact judge_inscribed (hinscribed hfree) htimed.expiry_readBack
      (normalizeAction_ne_nil haction) hidentifierNe hnormal hdigests rfl
      (hfree.subject_fits hsubject)
  -- The end is checked before anything is compared, so no text matters here.
  · intro t hle
    have hbegun : (Instant.wholeSeconds now : Rat) ≤ t := by
      refine le_trans ?_ hle
      exact_mod_cast (by omega : Instant.wholeSeconds now ≤ Instant.wholeSeconds now + span)
    have hexpired : config.decoded (order.demand minted action subject) minted.token t
        = .error (.token .expired) := htimed.read_of_le hhash hmint hthere hbegun hle
    exact verify_of_flaw (hpresent t) hexpired

/-- An order for a code and for a subject. -/
def resetOrder : Order where
  action := .text " reset "
  subject := some "me"

/-- The digits 0 to 9 in turn. -/
def digitsInTurn : Nat → Fin 10 := Fin.ofNat 10

theorem verify_minted_resetOrder :
    ∃ minted, (resetConfig none).issue resetOrder 0 "1" digitsInTurn = .ok minted
      ∧ normalizeAction (.text " reset ") = .ok minted.action
      ∧ CodeFits resetOrder minted.code
      ∧ (resetConfig none).verify (resetOrder.demand minted (.text " reset ") (.text "me"))
          minted.token 50 = .ok {
            action := minted.action
            identifier := "1"
            subject := some "me"
            codeBound := true
            codeVerified := true
            issuer := .text "server-engine"
            expiresAt := .int 300 }
      ∧ (resetConfig none).verify (resetOrder.demand minted (.text minted.action) .null)
          minted.token 300 = .error (.web "Invalid verification token supplied" "unauthorized" 401
            (.ok .null) .null (some (.token .expired))) := by
  have hissued : ((resetConfig none).issue resetOrder 0 "1" digitsInTurn).toOption.isSome
      = true := by decide +kernel
  cases hissue : (resetConfig none).issue resetOrder 0 "1" digitsInTurn with
  | error e =>
    rw [hissue] at hissued
    cases hissued
  | ok minted =>
    obtain ⟨haction, hfits, span, stop, hspan, hstop, hverify⟩ :=
      verify_minted (by decide) (by decide) (by decide) (le_refl 0) hissue
    have hreset : minted.action = "RESET" := Except.ok.inj (haction.symm.trans rfl)
    obtain rfl : stop = 300 := by
      have hspan := Json.int.inj hspan
      have hstart : Instant.wholeSeconds 0 = 0 := rfl
      omega
    refine ⟨minted, rfl, haction, hfits, ?_, ?_⟩
    · refine (hverify (.text " reset ") (.text "me") (Or.inl rfl) (Or.inr rfl)).1 ?_ 50
        (by decide +kernel) (by decide +kernel)
      refine ⟨by rw [hreset]; decide, by decide, ?_, ?_⟩
      · rintro a ⟨⟩
      · rintro s ⟨⟩
        decide
    · exact (hverify (.text minted.action) .null (Or.inr rfl) (Or.inl rfl)).2 300
        (by decide +kernel)

/-- An order for a subject of two halves. -/
def halvedOrder : Order where
  action := .text "reset"
  subject := some Text.twoHalves
  withCode := false

/-- The token for it. -/
def halvedToken : Text :=
  ("eyJhbGciOiJIUzI1NiIsInR5cCI6IkpXVCJ9" : Text)
    ++ ".eyJhY3QiOiJSRVNFVCIsImp0aSI6IjEiLCJpc3MiOiJzZXJ2ZXItZW5naW5lIiwiaWF0IjowLCJleHAiOjMwMCwi"
    ++ "c3ViIjoiXHVkODNkXHVkZTAwIn0"
    ++ ".01QVcxGYqxrYy4A6oRDDw4-bgCZp7UlqzXgNSXXGQM4"

/-- The demand for its action and its subject. -/
def halvedDemand : Demand where
  action := .text "reset"
  subject := .text Text.twoHalves

/-- The claims that are read in it. -/
def joinedClaims : Members := [
  ("act", .text "RESET"), ("jti", .text "1"), ("iss", .text "server-engine"), ("iat", .int 0),
  ("exp", .int 300), ("sub", .text [CodePoint.ofNat 0x1F600])]

/-- A subject of two halves is not recognised: the token names the code point they encode. -/
theorem verify_minted_halvedSubject :
    (resetConfig none).audienceFor halvedOrder.audience ≠ some []
      ∧ ∃ minted, (resetConfig none).issue halvedOrder 0 "1" digitsInTurn = .ok minted
        ∧ (resetConfig none).verify (halvedOrder.demand minted (.text "reset")
            (.ofText? halvedOrder.subject)) minted.token 50
          = .error (mismatch "Verification subject mismatch" [("expected", .text Text.twoHalves),
            ("actual", .text [CodePoint.ofNat 0x1F600])]) := by
  have hissued : ((resetConfig none).issue halvedOrder 0 "1" digitsInTurn).toOption.map
      Minted.token = some halvedToken := by decide +kernel
  cases hissue : (resetConfig none).issue halvedOrder 0 "1" digitsInTurn with
  | error e =>
    rw [hissue] at hissued
    cases hissued
  | ok minted =>
    rw [hissue] at hissued
    have htoken : minted.token = halvedToken := Option.some.inj hissued
    have hcode : minted.code = none := (issue_ok hissue).2.1.unordered rfl
    refine ⟨by decide, minted, rfl, ?_⟩
    have hdemand : halvedOrder.demand minted (.text "reset") (.ofText? halvedOrder.subject)
        = halvedDemand := by
      rw [Order.demand, hcode]
      rfl
    have hread : (resetConfig none).decoded halvedDemand halvedToken 50 = .ok joinedClaims :=
      ok_of_toOption (by decide +kernel)
    rw [htoken, hdemand, verify_of_decoded (by rintro ⟨⟩) hread]
    rfl

end Verification

end Portcullis
