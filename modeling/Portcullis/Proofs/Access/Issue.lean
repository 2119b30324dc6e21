/-
# An issued access token is accepted

Whatever the caller claims, an issued token carries what is registered for the issuer
(`Registered`).  Under the issuer's shared secret it is accepted from its issue up to the second it
ends in, and from then on refused as expired.

The claims of an accepted token are those that were issued, as they are read back from ASCII: of
texts and names with a pair of surrogates in them the pair is joined.  An issuer or an audience with
such a pair in its name would not be recognised.

**Main statement.**  `verify_issue`.
-/
import Portcullis.Access
import Portcullis.Proofs.Token.Claims
import Portcullis.Proofs.Token.Minting

namespace Portcullis

namespace TokenTrust

open Token

/-! ## 1. What is issued -/

/-- The claims of a token: those of the caller, but for the ones that are registered. -/
structure Registered (issued claims : Members) (name audience : Text) (bearer : Option Text)
    (start stop : Int) : Prop where
  issuer : issued.get? "iss" = some (.text name)
  audience : issued.get? "aud" = some (.text audience)
  issuedAt : issued.get? "iat" = some (.int start)
  expiry : issued.get? "exp" = some (.int stop)
  subject : ∀ s, bearer = some s → issued.get? "sub" = some (.text s)
  others : ∀ n, n ∉ (["iss", "aud", "iat", "exp"] : List Text) → (n = "sub" → bearer = none) →
    issued.get? n = claims.get? n
  names : Json.UniqueNames (.object issued)

theorem uniqueNames_setAll {pairs : Members} (hpairs : ∀ m ∈ pairs, m.2.isAtom = true) :
    ∀ {ms : Members}, Json.UniqueNames (.object ms) →
      Json.UniqueNames (.object (ms.setAll pairs)) := by
  induction pairs with
  | nil => exact fun h => h
  | cons m pairs ih =>
    obtain ⟨hm, hrest⟩ := List.forall_mem_cons.mp hpairs
    exact fun h => ih hrest (h.set m.1 (.atom hm))

/-- What is found in the claims of a token: the subject that is given, what is registered, or the
caller's claim. -/
theorem get?_claimsFor (trust : TokenTrust) (issuer : Issuer) (key : IssuerKey) (claims : Members)
    (subject : Option Text) (start stop : Int) (n : Text) :
    (trust.claimsFor issuer key claims subject start stop).get? n
      = ((if n = "sub" then subject.map Json.text else none).or
        (Members.get? n [("exp", .int stop), ("iat", .int start),
          ("aud", .ofText? (trust.audienceFor issuer)), ("iss", .text key.name)])).or
            (claims.get? n) := by
  unfold claimsFor
  rw [Members.get?_setAll, List.reverse_append, Members.get?_append]
  congr 2
  cases subject with
  | none => simp
  | some s => simp [Members.get?, eq_comm]

theorem uniqueNames_claimsFor (trust : TokenTrust) (issuer : Issuer) (key : IssuerKey)
    {claims : Members} (hclaims : Json.UniqueNames (.object claims)) (subject : Option Text)
    (start stop : Int) :
    Json.UniqueNames (.object (trust.claimsFor issuer key claims subject start stop)) := by
  unfold claimsFor
  refine uniqueNames_setAll ?_ hclaims
  cases subject <;> cases trust.audienceFor issuer <;> simp [Json.isAtom, Json.ofText?]

theorem registered_claimsFor {trust : TokenTrust} {issuer : Issuer} {audience : Text}
    (haudience : trust.audienceFor issuer = some audience) (key : IssuerKey) {claims : Members}
    (hclaims : Json.UniqueNames (.object claims)) (subject : Option Text) (start stop : Int) :
    Registered (trust.claimsFor issuer key claims subject start stop) claims key.name audience
      subject start stop where
  issuer := get?_claimsFor trust issuer key claims subject start stop "iss"
  audience := by
    have hstamped := get?_claimsFor trust issuer key claims subject start stop "aud"
    rwa [haudience] at hstamped
  issuedAt := get?_claimsFor trust issuer key claims subject start stop "iat"
  expiry := get?_claimsFor trust issuer key claims subject start stop "exp"
  subject := by
    rintro s rfl
    exact get?_claimsFor trust issuer key claims (some s) start stop "sub"
  others := by
    intro n hn hsubject
    simp only [List.mem_cons, List.not_mem_nil, or_false, not_or] at hn
    obtain ⟨hiss, haud, hiat, hexp⟩ := hn
    have hbound : (if n = "sub" then subject.map Json.text else none) = none := by
      split
      · next h => rw [hsubject h, Option.map_none]
      · rfl
    rw [get?_claimsFor, hbound]
    simp only [Members.get?_cons, Members.get?_nil, if_neg (Ne.symm hiss), if_neg (Ne.symm haud),
      if_neg (Ne.symm hiat), if_neg (Ne.symm hexp), Option.none_or]
  names := uniqueNames_claimsFor trust issuer key hclaims subject start stop

theorem Registered.timed {issued claims : Members} {name audience : Text} {bearer : Option Text}
    {start stop : Int} (h : Registered issued claims name audience bearer start stop)
    (hbegin : claims.get? "nbf" = none) : Timed issued start stop where
  names := h.names
  issuedAt := h.issuedAt
  expiry := h.expiry
  noBeginning := by
    rw [h.others "nbf" (by decide) fun hsub => absurd hsub (by decide), hbegin]

/-- What is required is there after reading, whatever the names of the parties are. -/
theorem Registered.present {issued claims : Members} {name audience : Text} {bearer : Option Text}
    {start stop : Int} (h : Registered issued claims name audience bearer start stop) :
    ∀ n ∈ (["exp", "iat", "iss", "aud"] : List Text), Present (issued.readBack .ascii) n := by
  simp only [List.forall_mem_cons]
  exact ⟨present_readBack h.names (by decide) h.expiry rfl,
    present_readBack h.names (by decide) h.issuedAt rfl,
    present_readBack h.names (by decide) h.issuer rfl,
    present_readBack h.names (by decide) h.audience rfl, List.forall_mem_nil _⟩

/-- The parties and the texts are as they are expected, after reading as before. -/
theorem Registered.suits {trust : TokenTrust} {issuer : Issuer} {issued claims : Members}
    {name audience : Text} {bearer : Option Text} {start stop : Int}
    (h : Registered issued claims name audience bearer start stop)
    (haudience : trust.audienceFor issuer = some audience) (hne : audience ≠ [])
    (hsubject : claims.get? "sub" = none ∨ ∃ t, claims.get? "sub" = some (.text t))
    (hidentifier : claims.get? "jti" = none ∨ ∃ t, claims.get? "jti" = some (.text t))
    (hunpaired : audience.Unpaired) :
    Suits (trust.expectations issuer) (issued.readBack .ascii) where
  issuer name hname := by cases hname
  audience a ha := by
    obtain rfl := Option.some.inj ha
    exact ⟨audience, haudience, hne, get?_readBack_text h.names (by decide) h.audience hunpaired⟩
  subject := by
    refine text_readBack h.names (by decide) ?_
    cases hbearer : bearer with
    | none =>
      rw [h.others "sub" (by decide) fun _ => hbearer]
      exact hsubject
    | some s => exact Or.inr ⟨s, h.subject s hbearer⟩
  identifier := by
    refine text_readBack h.names (by decide) ?_
    rw [h.others "jti" (by decide) fun hsub => absurd hsub (by decide)]
    exact hidentifier

/-! ## 2. What becomes of it -/

/-- A trusted issuer with a shared secret, and the audience of its tokens. -/
structure Shares (trust : TokenTrust) (issuer : Issuer) (key : IssuerKey) (audience : Text) :
    Prop where
  found : trust.keys issuer = some key
  secret : key.signingKey = some key.verifyKey
  algorithm : key.algorithm ∈ (["HS256", "HS384", "HS512"] : List Text)
  trusted : issuer ∈ trust.trusted
  audienceFor : trust.audienceFor issuer = some audience
  audience_ne_nil : audience ≠ []

/-- The algorithms that take a shared secret. -/
theorem exists_hmac {name : Text} (h : name ∈ (["HS256", "HS384", "HS512"] : List Text)) :
    ∃ hash, Algorithm.ofName? name = some (.hmac hash) := by
  simp only [List.mem_cons, List.not_mem_nil, or_false] at h
  rcases h with rfl | rfl | rfl
  · exact ⟨.sha256, rfl⟩
  · exact ⟨.sha384, rfl⟩
  · exact ⟨.sha512, rfl⟩

/-- What an issuer signs, whatever second an instant is written down as. -/
theorem issue_ok {trust : TokenTrust} {issuer : Issuer} {key : IssuerKey}
    (hkey : trust.keys issuer = some key) {claims : Members} {subject : Option Text} {span : Rat}
    {now : Instant} {stamp : Instant → Int} {token : Text}
    (h : trust.issue issuer claims subject span now stamp = .ok token) :
    ∃ signingKey, key.signingKey = some signingKey
      ∧ mint key.algorithm signingKey (trust.claimsFor issuer key claims subject (stamp now)
        (stamp (now + span))) = .ok token := by
  rw [issue, hkey] at h
  simp only at h
  split at h
  · next signingKey hsigning =>
    split at h
    · cases h
    · exact ⟨signingKey, hsigning, h⟩
  · cases h

theorem mint_of_issue {trust : TokenTrust} {issuer : Issuer} {key : IssuerKey}
    (hkey : trust.keys issuer = some key) (hsecret : key.signingKey = some key.verifyKey)
    {claims : Members} {subject : Option Text} {span : Rat} {now : Instant} {token : Text}
    (h : trust.issue issuer claims subject span now = .ok token) :
    mint key.algorithm key.verifyKey (trust.claimsFor issuer key claims subject
      (Instant.wholeSeconds now) (Instant.wholeSeconds (now + span))) = .ok token := by
  obtain ⟨signingKey, hsigning, hmint⟩ := issue_ok hkey h
  rwa [← Option.some.inj (hsecret.symm.trans hsigning)] at hmint

/-- **An issued token** carries what is registered and else what the caller claims.  It is accepted
from its issue up to the second it ends in, with these claims as they are read back, which are these
claims if no pair of surrogates is in them; from then on it is refused as expired. -/
theorem verify_issue {trust : TokenTrust} {issuer : Issuer} {key : IssuerKey} {audience : Text}
    (hshares : Shares trust issuer key audience) {claims : Members}
    (hclaims : Json.UniqueNames (.object claims)) (hbegin : claims.get? "nbf" = none)
    (hsubject : claims.get? "sub" = none ∨ ∃ t, claims.get? "sub" = some (.text t))
    (hidentifier : claims.get? "jti" = none ∨ ∃ t, claims.get? "jti" = some (.text t))
    {subject : Option Text} {span : Rat} {now : Instant} (hnow : 0 ≤ now) {token : Text}
    (hissue : trust.issue issuer claims subject span now = .ok token) :
    ∃ issued, Registered issued claims key.name audience subject (Instant.wholeSeconds now)
        (Instant.wholeSeconds (now + span))
      ∧ (key.name.Unpaired → audience.Unpaired → ∀ t : Instant, now ≤ t →
        t < Instant.wholeSeconds (now + span) →
          trust.verify token issuer t = .ok (issued.readBack .ascii))
      ∧ (Json.Unpaired (.object issued) → issued.readBack .ascii = issued)
      ∧ ∀ t : Instant, now ≤ t → Instant.wholeSeconds (now + span) ≤ t →
        trust.verify token issuer t = .error (.access .expired Flaw.expired.message) := by
  obtain ⟨hash, hhash⟩ := exists_hmac hshares.algorithm
  have hmint := mint_of_issue hshares.found hshares.secret hissue
  have hregistered := registered_claimsFor hshares.audienceFor key hclaims subject
    (Instant.wholeSeconds now) (Instant.wholeSeconds (now + span))
  generalize trust.claimsFor issuer key claims subject (Instant.wholeSeconds now)
    (Instant.wholeSeconds (now + span)) = issued at hmint hregistered
  have htimed := hregistered.timed hbegin
  have hbegun : ∀ t, now ≤ t → (Instant.wholeSeconds now : Rat) ≤ t := fun t ht =>
    (Instant.wholeSeconds_le hnow).trans ht
  refine ⟨issued, hregistered, ?_, ?_, ?_⟩
  · intro hname haudience t ht hlt
    have hissuer : (issued.readBack .ascii).get? "iss" = some (.text key.name) :=
      get?_readBack_text hregistered.names (by decide) hregistered.issuer hname
    have hsuits := hregistered.suits hshares.audienceFor hshares.audience_ne_nil hsubject
      hidentifier haudience
    have hmember : (trust.trusted.contains issuer && (issued.readBack .ascii).getD "iss"
        == .text key.name) = true := by
      rw [Members.getD, hissuer, Option.getD_some, beq_self_eq_true, Bool.and_true]
      exact List.contains_iff_mem.mpr hshares.trusted
    have hread : Token.read key.algorithm key.verifyKey (trust.expectations issuer) t token
        = .ok (issued.readBack .ascii) :=
      htimed.read_of_lt hhash hmint hregistered.present hsuits (hbegun t ht) hlt
    rw [verify, hshares.found]
    simp only [hread]
    exact if_pos hmember
  · exact fun hunpaired => Members.readBack_eq_self .ascii hunpaired hregistered.names
  -- The times are checked before the parties, so their names do not matter here.
  · intro t ht hle
    have hread : Token.read key.algorithm key.verifyKey (trust.expectations issuer) t token
        = .error (.token .expired) :=
      htimed.read_of_le hhash hmint hregistered.present (hbegun t ht) hle
    rw [verify, hshares.found]
    simp only [hread]
    rfl

/-- A key under a shared secret. -/
def mintingKey : IssuerKey :=
  ⟨"auth-service", "HS256", "correct horse battery staple", some "correct horse battery staple",
    none⟩

/-- A trust in the issuer of that key. -/
def mintingTrust : TokenTrust where
  audience := some "A"
  keys := fun _ => some mintingKey
  trusted := [.authService]

theorem shares_mintingTrust : Shares mintingTrust .authService mintingKey "A" where
  found := rfl
  secret := rfl
  algorithm := by decide
  trusted := by decide
  audienceFor := rfl
  audience_ne_nil := by decide

/-- A caller's claims, two of them registered. -/
def bossyClaims : Members :=
  [("iss", .int 7), ("exp", .list []), ("jti", .text "a"), ("role", .text "admin")]

/-- The token for them. -/
def bossyToken : Text :=
  ("eyJhbGciOiJIUzI1NiIsInR5cCI6IkpXVCJ9" : Text)
    ++ ".eyJpc3MiOiJhdXRoLXNlcnZpY2UiLCJleHAiOjEwMCwianRpIjoiYSIsInJvbGUiOiJhZG1pbiIsImF1ZCI6IkEi"
    ++ "LCJpYXQiOjAsInN1YiI6Im1lIn0"
    ++ ".tAdEjYSPxXPU4IkebPL9ocY5Q3DnbgQdKVjFwUFAWUs"

theorem verify_issue_bossyClaims :
    mintingTrust.issue .authService bossyClaims (some "me") 100 0 = .ok bossyToken
      ∧ ∃ issued, Registered issued bossyClaims "auth-service" "A" (some "me")
          (Instant.wholeSeconds 0) (Instant.wholeSeconds (0 + 100))
        ∧ mintingTrust.verify bossyToken .authService 50 = .ok (issued.readBack .ascii)
        ∧ mintingTrust.verify bossyToken .authService 100
          = .error (.access .expired Flaw.expired.message) := by
  have hissue : mintingTrust.issue .authService bossyClaims (some "me") 100 0 = .ok bossyToken :=
    ok_of_toOption (by decide +kernel)
  obtain ⟨issued, hregistered, haccepted, -, hexpired⟩ :=
    verify_issue shares_mintingTrust (by decide) rfl (Or.inl rfl) (Or.inr ⟨"a", rfl⟩) (le_refl 0)
      hissue
  refine ⟨hissue, issued, hregistered, ?_, ?_⟩
  · exact haccepted (by decide) (by decide) 50 (by decide +kernel) (by decide +kernel)
  · exact hexpired 100 (by decide +kernel) (by decide +kernel)

/-- Claims under that code point and under its halves. -/
def halvedClaims : Members := [(Text.twoHalves, .int 1), ([CodePoint.ofNat 0x1F600], .int 2)]

/-- The token for them. -/
def halvedToken : Text :=
  ("eyJhbGciOiJIUzI1NiIsInR5cCI6IkpXVCJ9" : Text)
    ++ ".eyJcdWQ4M2RcdWRlMDAiOjEsIlx1ZDgzZFx1ZGUwMCI6MiwiaXNzIjoiYXV0aC1zZXJ2aWNlIiwiYXVkIjoiQSIs"
    ++ "ImlhdCI6MCwiZXhwIjoxMDB9"
    ++ ".mPhgqp6Z5kagPyIAyPheg9xgnXuKikB7KdghKq_apgo"

/-- The claims that are returned for it. -/
def joinedClaims : Members := [
  ([CodePoint.ofNat 0x1F600], .int 2), ("iss", .text "auth-service"), ("aud", .text "A"),
  ("iat", .int 0), ("exp", .int 100)]

/-- A claim of the caller is lost when its name is two halves of the name of another. -/
theorem verify_issue_halvedClaims :
    Shares mintingTrust .authService mintingKey "A" ∧ Json.UniqueNames (.object halvedClaims)
      ∧ mintingTrust.issue .authService halvedClaims none 100 0 = .ok halvedToken
      ∧ ¬ ∃ issued, Registered issued halvedClaims "auth-service" "A" none 0 100
          ∧ mintingTrust.verify halvedToken .authService 50 = .ok issued := by
  have hissue : mintingTrust.issue .authService halvedClaims none 100 0 = .ok halvedToken :=
    ok_of_toOption (by decide +kernel)
  have hverify : mintingTrust.verify halvedToken .authService 50 = .ok joinedClaims :=
    ok_of_toOption (by decide +kernel)
  refine ⟨shares_mintingTrust, by decide, hissue, ?_⟩
  rintro ⟨issued, hregistered, hissued⟩
  obtain rfl := Except.ok.inj (hverify.symm.trans hissued)
  have hother := hregistered.others Text.twoHalves (by decide) fun _ => rfl
  have hlost : joinedClaims.get? Text.twoHalves = none := by decide
  have hclaimed : halvedClaims.get? Text.twoHalves = some (.int 1) := rfl
  rw [hlost, hclaimed] at hother
  cases hother

end TokenTrust

end Portcullis
