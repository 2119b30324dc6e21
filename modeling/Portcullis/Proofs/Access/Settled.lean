/-
# What the verification of an access token ends in

Whatever a client sends, an access token is to be accepted or refused at a stage (`Settled`).  Under
a shared secret that can be used, it is for every text in octets, however its segments are built;
and where the issuer has no key, every token is refused.

A text with a lone surrogate has no octets.  It is neither accepted nor refused, and such a text
need not come from a header: whoever takes tokens from JSON can be handed one.

**Main statement.**  `verify_settled_iff`.
-/
import Portcullis.Proofs.Access.Issue
import Portcullis.Proofs.Access.Verify
import Portcullis.Proofs.Token.Faults

namespace Portcullis

open Token

/-- A key under a shared secret that can be used as one. -/
structure IssuerKey.IsShared (key : IssuerKey) : Prop where
  algorithm : key.algorithm ∈ (["HS256", "HS384", "HS512"] : List Text)
  usable : ∃ octets, secretBytes key.verifyKey = .ok octets

namespace TokenTrust

/-- A verification ends in claims, or in a refusal at one of its stages. -/
def Settled (result : Except Fault Members) : Prop :=
  (∃ claims, result = .ok claims) ∨ ∃ reason message, result = .error (.access reason message)

/-- A fault of encoding is neither. -/
theorem not_settled_encoding : ¬ Settled (.error (.ofKind .encoding)) := by
  rintro (⟨claims, hok⟩ | ⟨reason, message, herror⟩)
  · cases hok
  · cases herror

section Verify

variable {trust : TokenTrust} {issuer : Issuer} {key : IssuerKey} {token : Text} {now : Instant}

/-! ## 1. One stage after the other -/

/-- Without a key every token is refused. -/
theorem settled_of_keyless (h : trust.keys issuer = none) :
    Settled (trust.verify token issuer now) := by
  rw [verify, h]
  exact Or.inr ⟨_, _, rfl⟩

/-- A flaw is a refusal at its stage, and every other fault stays. -/
theorem verify_of_read_error (hkey : trust.keys issuer = some key) {fault : Fault}
    (h : Token.read key.algorithm key.verifyKey (trust.expectations issuer) now token
      = .error fault) : trust.verify token issuer now = .error (refuse fault) := by
  rw [verify, hkey]
  simp only [h]

/-- The issuer is looked at last: the claims that are read are accepted if they name a trusted one,
and refused else. -/
theorem verify_of_read (hkey : trust.keys issuer = some key) {claims : Members}
    (h : Token.read key.algorithm key.verifyKey (trust.expectations issuer) now token
      = .ok claims) :
    (issuer ∈ trust.trusted ∧ claims.get? "iss" = some (.text key.name)
        ∧ trust.verify token issuer now = .ok claims)
      ∨ ∃ message, trust.verify token issuer now = .error (.access .issuerNotTrusted message) := by
  rw [verify, hkey]
  simp only [h]
  split
  · next hissuer =>
    obtain ⟨htrusted, hclaimed⟩ := (Bool.and_eq_true _ _).mp hissuer
    exact Or.inl ⟨List.contains_iff_mem.mp htrusted,
      Members.get?_of_getD (beq_iff_eq.mp hclaimed) rfl, rfl⟩
  · exact Or.inr ⟨_, rfl⟩

/-- The claims of an accepted token are read under the issuer's key, and name the issuer. -/
theorem verify_ok {claims : Members} (h : trust.verify token issuer now = .ok claims) :
    ∃ key, trust.keys issuer = some key ∧ claims.get? "iss" = some (.text key.name)
      ∧ Token.read key.algorithm key.verifyKey (trust.expectations issuer) now token
        = .ok claims := by
  cases hkey : trust.keys issuer with
  | none =>
    rw [verify, hkey] at h
    cases h
  | some key =>
    cases hread : Token.read key.algorithm key.verifyKey (trust.expectations issuer) now token with
    | error fault => cases h.symm.trans (verify_of_read_error hkey hread)
    | ok found =>
      rcases verify_of_read hkey hread with ⟨-, hname, hok⟩ | ⟨message, herror⟩
      · obtain rfl := Except.ok.inj (h.symm.trans hok)
        exact ⟨key, rfl, hname, hread⟩
      · cases h.symm.trans herror

/-- **A token is accepted** if the issuer is trusted and the claims that are read under its key name
it. -/
theorem verify_ok_iff {claims : Members} : trust.verify token issuer now = .ok claims
    ↔ ∃ key, trust.keys issuer = some key ∧ issuer ∈ trust.trusted
      ∧ claims.get? "iss" = some (.text key.name)
      ∧ Token.read key.algorithm key.verifyKey (trust.expectations issuer) now token
        = .ok claims := by
  constructor
  · intro h
    obtain ⟨key, hkey, hname, hread⟩ := verify_ok h
    rcases verify_of_read hkey hread with ⟨htrusted, -, -⟩ | ⟨message, herror⟩
    · exact ⟨key, hkey, htrusted, hname, hread⟩
    · cases h.symm.trans herror
  · rintro ⟨key, hkey, htrusted, hname, hread⟩
    have hclaimed : claims.getD "iss" = .text key.name := by rw [Members.getD, hname]; rfl
    rw [verify, hkey]
    simp [hread, htrusted, hclaimed]

/-! ## 2. What it ends in -/

/-- A text in octets is accepted or refused. -/
theorem settled_of_whole (hkeys : ∀ key, trust.keys issuer = some key → key.IsShared)
    (hwhole : token.Whole) : Settled (trust.verify token issuer now) := by
  cases hkey : trust.keys issuer with
  | none => exact settled_of_keyless hkey
  | some key =>
    obtain ⟨hash, hhash⟩ := exists_hmac (hkeys key hkey).algorithm
    rcases read_cases hhash key.verifyKey token (trust.expectations issuer) now with
      ⟨claims, hread⟩ | ⟨flaw, hread⟩ | ⟨fault, huncheckable⟩
    · rcases verify_of_read hkey hread with ⟨-, -, hok⟩ | ⟨message, herror⟩
      · exact Or.inl ⟨claims, hok⟩
      · exact Or.inr ⟨_, message, herror⟩
    · rw [verify_of_read_error hkey hread]
      exact Or.inr ⟨_, _, rfl⟩
    · exfalso
      cases huncheckable with
      | token hno => exact hno hwhole
      | secret _ _ _ unusable =>
        obtain ⟨octets, husable⟩ := (hkeys key hkey).usable
        cases husable.symm.trans unusable

/-- A text without octets is not checked. -/
theorem verify_of_not_whole (hkey : trust.keys issuer = some key) (hshared : key.IsShared)
    (hno : ¬ token.Whole) : trust.verify token issuer now = .error (.ofKind .encoding) := by
  obtain ⟨hash, hhash⟩ := exists_hmac hshared.algorithm
  exact verify_of_read_error hkey
    (read_of_uncheckable hhash (.token hno) (trust.expectations issuer) now)

/-- **An access token is accepted or refused** under a shared secret exactly if its text has octets,
and always if there is no key.  A text that has none ends in a fault of encoding. -/
theorem verify_settled_iff (hkeys : ∀ key, trust.keys issuer = some key → key.IsShared)
    (token : Text) (now : Instant) :
    (Settled (trust.verify token issuer now) ↔ trust.keys issuer = none ∨ token.Whole)
      ∧ (trust.keys issuer ≠ none → ¬ token.Whole →
        trust.verify token issuer now = .error (.ofKind .encoding)) := by
  have hescapes : trust.keys issuer ≠ none → ¬ token.Whole →
      trust.verify token issuer now = .error (.ofKind .encoding) := by
    intro hsome hno
    obtain ⟨key, hkey⟩ := Option.ne_none_iff_exists'.mp hsome
    exact verify_of_not_whole hkey (hkeys key hkey) hno
  refine ⟨⟨?_, ?_⟩, hescapes⟩
  · intro hsettled
    by_contra hneither
    obtain ⟨hsome, hno⟩ := not_or.mp hneither
    rw [hescapes hsome hno] at hsettled
    exact not_settled_encoding hsettled
  · rintro (hnone | hwhole)
    · exact settled_of_keyless hnone
    · exact settled_of_whole hkeys hwhole

end Verify

theorem isShared_sharedKeyTrust :
    ∀ key, sharedKeyTrust.keys .authService = some key → key.IsShared := by
  rintro key ⟨⟩
  exact ⟨by decide, Bytes.ofAscii "correct horse battery staple",
    ok_of_toOption (by decide +kernel)⟩

theorem verify_settled_sharedKeyToken :
    (∀ key, sharedKeyTrust.keys .authService = some key → key.IsShared)
      ∧ sharedKeyToken.Whole
      ∧ Settled (sharedKeyTrust.verify sharedKeyToken .authService 50)
      ∧ sharedKeyTrust.verify (CodePoint.ofNat 0xD800 :: sharedKeyToken) .authService 50
        = .error (.ofKind .encoding) := by
  have hwhole : sharedKeyToken.Whole := (Text.any_isSurrogate_iff _).mp (by decide +kernel)
  refine ⟨isShared_sharedKeyTrust, hwhole, ?_, ?_⟩
  · exact (verify_settled_iff isShared_sharedKeyTrust sharedKeyToken 50).1.mpr (Or.inr hwhole)
  · refine (verify_settled_iff isShared_sharedKeyTrust _ 50).2 (Option.some_ne_none _) ?_
    intro h
    exact absurd (h _ List.mem_cons_self) (by decide)

/-- A token that is a lone surrogate. -/
def surrogateToken : Text := [CodePoint.ofNat 0xD800]

/-- A token that has no octets is not refused. -/
theorem verify_surrogateToken :
    (∀ key, sharedKeyTrust.keys .authService = some key → key.IsShared)
      ∧ ¬ Settled (sharedKeyTrust.verify surrogateToken .authService 50) := by
  have hverify : sharedKeyTrust.verify surrogateToken .authService 50
      = .error (.ofKind .encoding) := rfl
  refine ⟨isShared_sharedKeyTrust, ?_⟩
  rw [hverify]
  exact not_settled_encoding

end TokenTrust

end Portcullis
