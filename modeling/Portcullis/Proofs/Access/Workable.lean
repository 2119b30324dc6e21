/-
# Keys that work

An issuer that has been given a secret issues tokens exactly if its key can be used as a shared one:
its algorithm is spelled as headers spell it, and its secret is no text of another key.  What it
issues is accepted up to its end exactly if the issuer is trusted and neither its name nor the
audience has a pair of surrogates in it.  None of this follows from the key being there.

Claims can be written if they do not nest too deep and no integer in them is too long (`Mintable`);
stamping them adds nothing but texts and times, which can be (`Instant.Dated`).

**Main statements.**  `issue_ok_iff` and `verify_issued_iff`.
-/
import Portcullis.Proofs.Access.Dated
import Portcullis.Proofs.Access.Isolation
import Portcullis.Proofs.Json.Writable
import Portcullis.Text.Casing

namespace Portcullis

/-- What is set is there from before, or is one of the pairs. -/
theorem Members.mem_setAll {pairs : Members} {m : Text × Json} :
    ∀ {ms : Members}, m ∈ setAll ms pairs → m ∈ ms ∨ m ∈ pairs := by
  induction pairs with
  | nil => exact Or.inl
  | cons pair pairs ih =>
    intro ms h
    have hfold : m ∈ setAll (set pair.1 pair.2 ms) pairs := h
    rcases ih hfold with hset | hrest
    · rcases mem_set hset with rfl | hm
      · exact Or.inr List.mem_cons_self
      · exact Or.inl hm
    · exact Or.inr (List.mem_cons_of_mem _ hrest)

namespace TokenTrust

open Token

/-! ## 1. What can be signed -/

/-- Claims that can be written down. -/
structure Mintable (claims : Members) : Prop where
  nests : Json.nestsWithin Json.maxDepth (.object claims) = true
  fits : Json.integersFit (.object claims) = true

theorem mintable_iff (claims : Members) :
    Mintable claims ↔ ∀ m ∈ claims,
      m.2.nestsWithin (Json.maxDepth - 1) = true ∧ m.2.integersFit = true := by
  have hnests : Json.nestsWithin Json.maxDepth (.object claims)
      = claims.all fun m => m.2.nestsWithin (Json.maxDepth - 1) := rfl
  rw [forall₂_and, ← List.all_eq_true, ← List.all_eq_true, ← Json.integersFitMembers_eq, ← hnests]
  exact ⟨fun h => ⟨h.nests, h.fits⟩, fun h => ⟨h.1, h.2⟩⟩

/-- Stamped claims can be written if the caller's can and the times are not too long. -/
theorem Mintable.claimsFor {claims : Members} (h : Mintable claims) (trust : TokenTrust)
    (issuer : Issuer) (key : IssuerKey) (subject : Option Text) {start stop : Int}
    (hstart : (Json.int start).integersFit = true) (hstop : (Json.int stop).integersFit = true) :
    Mintable (trust.claimsFor issuer key claims subject start stop) := by
  rw [mintable_iff] at h ⊢
  intro m hm
  rcases Members.mem_setAll hm with hclaimed | hstamped
  · exact h m hclaimed
  · have haudience (a : Option Text) : (Json.ofText? a).nestsWithin (Json.maxDepth - 1) = true
        ∧ (Json.ofText? a).integersFit = true := by
      cases a with
      | none => exact ⟨rfl, rfl⟩
      | some t => exact ⟨rfl, rfl⟩
    rcases List.mem_append.mp hstamped with hregistered | hbound
    · simp only [List.mem_cons, List.not_mem_nil, or_false] at hregistered
      rcases hregistered with rfl | rfl | rfl | rfl
      · exact ⟨rfl, rfl⟩
      · exact haudience _
      · exact ⟨rfl, hstart⟩
      · exact ⟨rfl, hstop⟩
    · cases subject with
      | none => cases hbound
      | some s =>
        obtain rfl := List.mem_singleton.mp hbound
        exact ⟨rfl, rfl⟩

/-- The algorithms whose names begin as those of the shared secrets, in any letter case. -/
theorem mem_of_startsWith {name : Text} {a : Algorithm} (h : Algorithm.ofName? name = some a)
    (hkind : name.upper.startsWith "HS" = true) :
    name ∈ (["HS256", "HS384", "HS512"] : List Text) := by
  have hall : ∀ entry ∈ Algorithm.names, entry.1.upper.startsWith "HS" = true →
      entry.1 ∈ (["HS256", "HS384", "HS512"] : List Text) := by decide
  exact hall (name, a) (mem_names_of_ofName? h) hkind

/-- Claims that can be written are signed under a usable secret. -/
theorem mint_of_usable {algorithm key : Text} {hash : Hash}
    (ha : Algorithm.ofName? algorithm = some (.hmac hash)) {octets : Bytes}
    (hkey : secretBytes key = .ok octets) {claims : Members} (hclaims : Mintable claims) :
    ∃ token, mint algorithm key claims = .ok token := by
  rw [mint, hclaims.nests, hclaims.fits, ha]
  simp only [Bool.not_true, Bool.false_eq_true, if_false, Algorithm.sign, hkey, ok_bind]
  exact ⟨_, rfl⟩

/-- What is signed under a secret is signed under a usable one. -/
theorem usable_of_mint {algorithm key token : Text} {claims : Members} {hash : Hash}
    (ha : Algorithm.ofName? algorithm = some (.hmac hash))
    (h : mint algorithm key claims = .ok token) : ∃ octets, secretBytes key = .ok octets := by
  obtain ⟨-, -, signature, hsign, -⟩ := mint_ok ha h
  obtain ⟨octets, hoctets, -⟩ := bind_eq_ok hsign
  exact ⟨octets, hoctets⟩

/-! ## 2. Issuers with a secret -/

/-- An issuer has been given a secret for an algorithm of that kind, and an audience for its
tokens. -/
structure Equipped (trust : TokenTrust) (issuer : Issuer) (key : IssuerKey) (audience : Text) :
    Prop where
  found : trust.keys issuer = some key
  secret : key.signingKey = some key.verifyKey
  kind : key.algorithm.upper.startsWith "HS" = true
  audienceFor : trust.audienceFor issuer = some audience
  audience_ne_nil : audience ≠ []

section Equipped

variable {trust : TokenTrust} {issuer : Issuer} {key : IssuerKey} {audience : Text}
  {claims : Members} {subject : Option Text} {span : Rat} {now : Instant}
  {stamp : Instant → Int}

/-- What is issued is signed under the secret. -/
theorem Equipped.mint_of_issue (h : Equipped trust issuer key audience) {token : Text}
    (hissue : trust.issue issuer claims subject span now stamp = .ok token) :
    mint key.algorithm key.verifyKey (trust.claimsFor issuer key claims subject (stamp now)
      (stamp (now + span))) = .ok token := by
  obtain ⟨signingKey, hsigning, hmint⟩ := issue_ok h.found hissue
  rwa [← Option.some.inj (h.secret.symm.trans hsigning)] at hmint

/-- What an equipped issuer issues is signed under a shared secret. -/
theorem Equipped.isShared_of_issue (h : Equipped trust issuer key audience) {token : Text}
    (hissue : trust.issue issuer claims subject span now stamp = .ok token) : key.IsShared := by
  have hmint := h.mint_of_issue hissue
  obtain ⟨a, ha⟩ := ofName?_of_mint hmint
  have halgorithm := mem_of_startsWith ha h.kind
  obtain ⟨hash, hhash⟩ := exists_hmac halgorithm
  exact ⟨halgorithm, usable_of_mint hhash hmint⟩

/-- **An equipped issuer issues tokens** exactly if its key can be used as a shared one. -/
theorem issue_ok_iff (h : Equipped trust issuer key audience) (hclaims : Mintable claims)
    (hstamp : Instant.Dated stamp) (hnow : Instant.hasDate now = true)
    (hend : Instant.hasDate (now + span) = true) :
    (∃ token, trust.issue issuer claims subject span now stamp = .ok token) ↔ key.IsShared := by
  constructor
  · rintro ⟨token, hissue⟩
    exact h.isShared_of_issue hissue
  · intro hshared
    obtain ⟨hash, hhash⟩ := exists_hmac hshared.algorithm
    obtain ⟨octets, hoctets⟩ := hshared.usable
    have hmintable := hclaims.claimsFor trust issuer key subject
      (Json.integersFit_int (hstamp now hnow)) (Json.integersFit_int (hstamp _ hend))
    obtain ⟨token, hmint⟩ := mint_of_usable hhash hoctets hmintable
    refine ⟨token, ?_⟩
    rw [issue, h.found]
    simp only [h.secret, hend, Bool.not_true, Bool.false_eq_true, if_false]
    exact hmint

/-! ## 3. What is issued -/

/-- A caller's claims that stand in the way of no check. -/
structure Unobtrusive (claims : Members) : Prop where
  names : Json.UniqueNames (.object claims)
  noBeginning : claims.get? "nbf" = none
  subject : claims.get? "sub" = none ∨ ∃ t, claims.get? "sub" = some (.text t)
  identifier : claims.get? "jti" = none ∨ ∃ t, claims.get? "jti" = some (.text t)

/-- Claims that are read are accepted if they name the issuer and it is trusted. -/
theorem verify_of_named (hkey : trust.keys issuer = some key) {token : Text} {t : Instant}
    {found : Members}
    (hread : Token.read key.algorithm key.verifyKey (trust.expectations issuer) t token
      = .ok found) (htrusted : issuer ∈ trust.trusted)
    (hname : found.get? "iss" = some (.text key.name)) :
    trust.verify token issuer t = .ok found := by
  have hmember : (trust.trusted.contains issuer && found.getD "iss" == .text key.name) = true := by
    rw [Members.getD, hname, Option.getD_some, beq_self_eq_true, Bool.and_true]
    exact List.contains_iff_mem.mpr htrusted
  rw [verify, hkey]
  simp only [hread]
  exact if_pos hmember

/-- The names in a token that is accepted are as they were stamped. -/
theorem unpaired_of_verify (hkey : trust.keys issuer = some key)
    (haudience : trust.audienceFor issuer = some audience)
    (hnames : Json.UniqueNames (.object claims)) {token : Text}
    (hissue : trust.issue issuer claims subject span now stamp = .ok token) {t : Instant}
    {found : Members} (hverify : trust.verify token issuer t = .ok found) :
    issuer ∈ trust.trusted ∧ key.name.Unpaired ∧ audience.Unpaired := by
  obtain ⟨expected, hexpected, hissuer, hread⟩ := verify_ok hverify
  obtain rfl := Option.some.inj (hkey.symm.trans hexpected)
  obtain ⟨hissued, hstamped⟩ := parties_of_issued hkey hnames hissue hread
  rw [haudience] at hstamped
  refine ⟨?_, ?_, ?_⟩
  · rcases verify_of_read hkey hread with ⟨htrusted, -, -⟩ | ⟨message, herror⟩
    · exact htrusted
    · cases hverify.symm.trans herror
  · refine (Text.joined_eq_self_iff _).mp ?_
    exact Json.text.inj (Option.some.inj (hissued.symm.trans hissuer))
  · refine (Text.joined_eq_self_iff _).mp ?_
    obtain ⟨segments, -, -, hcheck⟩ := read_ok hread
    have hnamed : Names found audience :=
      (inTime_of_checkClaims hcheck).2.audience audience (congrArg some haudience)
    rcases hnamed with htext | ⟨items, hlist, -⟩
    · exact Json.text.inj (Option.some.inj (hstamped.symm.trans htext))
    · cases hstamped.symm.trans hlist

/-- **What an equipped issuer issues is accepted** in its lifetime exactly if the issuer is trusted
and its name and the audience are read back as they are. -/
theorem verify_issued_iff (h : Equipped trust issuer key audience) (hclaims : Unobtrusive claims)
    {token : Text} (hissue : trust.issue issuer claims subject span now stamp = .ok token)
    {t : Instant} (hstart : (stamp now : Rat) ≤ t) (hlt : t < stamp (now + span)) :
    (∃ found, trust.verify token issuer t = .ok found)
      ↔ issuer ∈ trust.trusted ∧ key.name.Unpaired ∧ audience.Unpaired := by
  constructor
  · rintro ⟨found, hverify⟩
    exact unpaired_of_verify h.found h.audienceFor hclaims.names hissue hverify
  · rintro ⟨htrusted, hname, haudience⟩
    obtain ⟨hash, hhash⟩ := exists_hmac (h.isShared_of_issue hissue).algorithm
    have hmint := h.mint_of_issue hissue
    have hregistered := registered_claimsFor h.audienceFor key hclaims.names subject (stamp now)
      (stamp (now + span))
    have hsuits := hregistered.suits h.audienceFor h.audience_ne_nil hclaims.subject
      hclaims.identifier haudience
    have hread := (hregistered.timed hclaims.noBeginning).read_of_lt hhash hmint
      hregistered.present hsuits hstart hlt
    have hissuer := get?_readBack_text hregistered.names (by decide) hregistered.issuer hname
    exact ⟨_, verify_of_named h.found hread htrusted hissuer⟩

end Equipped

end TokenTrust

end Portcullis
