/-
# What reading a token fails with

Reading fails with a flaw of the token or with a fault of its key, never with anything that the
service itself says (`Fault.FromBelow`).

Where the key is a shared secret, only two things keep a token from being checked (`Uncheckable`):
it holds a lone surrogate, or it names the key's algorithm and the secret cannot be used with it.

**Main statements.**  `failsOnly_read`, `read_of_uncheckable` and `read_cases`.
-/
import Portcullis.Proofs.Token.Reading

namespace Portcullis

/-! ## 1. Faults from below -/

namespace Fault

/-- What a key leads to: a fault of the key, or one of a plain kind. -/
inductive OfKey : Fault → Prop
  | key (flaw : Key.Flaw) : OfKey (.key flaw)
  | plain (kind : Kind) (message : Text) : OfKey (.plain kind message)

/-- What a token leads to: one of its flaws, or what its key leads to. -/
inductive FromBelow : Fault → Prop
  | token (flaw : Token.Flaw) : FromBelow (.token flaw)
  | ofKey {fault : Fault} (h : OfKey fault) : FromBelow fault

theorem OfKey.isWeb {fault : Fault} (h : OfKey fault) : fault.isWeb = false := by
  cases h with
  | key flaw => rfl
  | plain kind message => rfl

theorem OfKey.ne_token {fault : Fault} (h : OfKey fault) (flaw : Token.Flaw) :
    fault ≠ .token flaw := by
  cases h with
  | key flaw => rintro ⟨⟩
  | plain kind message => rintro ⟨⟩

end Fault

namespace Token

open Fault

/-! ## 2. Keys -/

theorem failsOnly_noKey (text : Text) : FailsOnly OfKey (noKey text) := by
  unfold noKey
  split
  · exact failsOnly_ok _
  · exact failsOnly_error (.key _)

theorem failsOnly_secretBytes (secret : Text) : FailsOnly OfKey (secretBytes secret) := by
  unfold secretBytes
  split
  · exact failsOnly_error (.plain _ _)
  split
  · exact failsOnly_error (.key _)
  split
  · exact failsOnly_error (.key _)
  split
  · exact failsOnly_error (.key _)
  · exact failsOnly_ok _

/-- What is read as an RSA key is one, or of the wrong kind. -/
theorem failsOnly_rsaKey (text : Text) : FailsOnly OfKey (rsaKey text) := by
  unfold rsaKey
  simp only
  split
  · split
    · exact failsOnly_ok _
    · exact failsOnly_ok _
    · exact failsOnly_error (.key _)
  · split
    · split
      · exact failsOnly_ok _
      · exact failsOnly_ok _
      · exact failsOnly_error (.key _)
    · exact failsOnly_error (.key _)
    · exact failsOnly_error (.key _)
    · exact failsOnly_error (.plain _ _)
  · exact failsOnly_error (.plain _ _)

theorem failsOnly_pointOf (curve : Curve) (k : Key) : FailsOnly OfKey (pointOf curve k) := by
  unfold pointOf
  simp only
  split
  · split
    · exact failsOnly_ok _
    · exact failsOnly_error (.key _)
  · split
    · exact failsOnly_ok _
    · exact failsOnly_error (.key _)
  · exact failsOnly_error (.key _)

theorem failsOnly_curvePoint (curve : Curve) (text : Text) :
    FailsOnly OfKey (curvePoint curve text) := by
  unfold curvePoint
  simp only
  split
  · exact failsOnly_pointOf curve _
  · split
    · exact failsOnly_pointOf curve _
    · exact failsOnly_error (.plain _ _)
  · exact failsOnly_error (.plain _ _)

theorem failsOnly_edwardsKey (text : Text) : FailsOnly OfKey (edwardsKey text) := by
  unfold edwardsKey
  simp only
  split
  · exact failsOnly_error (.plain _ _)
  · exact failsOnly_error (.key _)
  · split
    · exact failsOnly_ok _
    · exact failsOnly_error (.plain _ _)

/-- A signature is checked by every algorithm, unless its key does not allow it. -/
theorem Algorithm.failsOnly_verify (a : Algorithm) (key : Text) (message signature : Bytes) :
    FailsOnly OfKey (a.verify key message signature) := by
  cases a with
  | unsigned => exact (failsOnly_noKey key).bind fun _ _ => failsOnly_ok _
  | hmac hash => exact (failsOnly_secretBytes key).bind fun _ _ => failsOnly_ok _
  | rsa hash =>
    refine (failsOnly_rsaKey key).bind fun k _ => ?_
    split
    · exact failsOnly_ok _
    · exact failsOnly_error (.plain _ _)
  | rsaPss hash =>
    refine (failsOnly_rsaKey key).bind fun k _ => ?_
    split
    · exact failsOnly_ok _
    · exact failsOnly_error (.plain _ _)
  | curve curve hash => exact (failsOnly_curvePoint curve key).bind fun _ _ => failsOnly_ok _
  | edwards =>
    refine (failsOnly_edwardsKey key).bind fun k _ => ?_
    split
    · exact failsOnly_ok _
    · exact failsOnly_ok _
    · exact failsOnly_error (.key _)

/-! ## 3. Tokens -/

theorem failsOnly_liftFlaw {α : Type} (x : Except Flaw α) : FailsOnly FromBelow (liftFlaw x) := by
  cases x with
  | ok a => exact failsOnly_ok a
  | error flaw => exact failsOnly_error (.token flaw)

theorem failsOnly_authenticate (algorithm key token : Text) :
    FailsOnly FromBelow (authenticate algorithm key token) := by
  unfold authenticate
  split
  · exact failsOnly_error (.ofKey (.plain _ _))
  refine (failsOnly_liftFlaw _).bind fun segments _ => ?_
  refine (failsOnly_liftFlaw _).bind fun a _ => ?_
  refine ((a.failsOnly_verify key _ _).mono fun _ h => .ofKey h).bind fun valid _ => ?_
  split
  · exact failsOnly_ok _
  · exact failsOnly_error (.token _)

/-- **Reading a token fails** with a flaw of the token, or with what its key leads to. -/
theorem failsOnly_read (algorithm key : Text) (expect : Expectations) (now : Rat) (token : Text) :
    FailsOnly FromBelow (read algorithm key expect now token) := by
  refine (failsOnly_authenticate algorithm key token).bind fun segments _ => ?_
  refine (failsOnly_liftFlaw _).bind fun claims _ => ?_
  exact (failsOnly_liftFlaw _).bind fun _ _ => failsOnly_ok _

/-! ## 4. Shared secrets -/

/-- A token cannot be checked under a shared secret: it holds a lone surrogate, or it names the
algorithm and the secret cannot be used. -/
inductive Uncheckable (algorithm key token : Text) : Fault → Prop
  | token (h : ¬ token.Whole) : Uncheckable algorithm key token (.ofKind .encoding)
  | secret {found : Segments} {fault : Fault} (whole : token.Whole)
      (segments : Segments.read token = .ok found)
      (named : Members.get? "alg" found.header = some (.text algorithm))
      (unusable : secretBytes key = .error fault) : Uncheckable algorithm key token fault

section Shared

variable {algorithm key token : Text} {hash : Hash}

theorem Uncheckable.ofKey {fault : Fault} (h : Uncheckable algorithm key token fault) :
    fault.OfKey := by
  cases h with
  | token _ => exact .plain _ _
  | secret _ _ _ unusable => exact failsOnly_secretBytes key _ unusable

/-- What cannot be checked is not read. -/
theorem read_of_uncheckable (ha : Algorithm.ofName? algorithm = some (.hmac hash)) {fault : Fault}
    (h : Uncheckable algorithm key token fault) (expect : Expectations) (now : Rat) :
    read algorithm key expect now token = .error fault := by
  rw [read, authenticate]
  cases h with
  | token hno =>
    rw [← Text.any_isSurrogate_iff, Bool.not_eq_false] at hno
    rw [hno]
    rfl
  | @secret found _ whole segments named unusable =>
    have hread : liftFlaw (Segments.read token) = .ok found := by
      rw [segments]
      rfl
    have hchosen : liftFlaw (chooseAlgorithm algorithm found.header) = .ok (.hmac hash) := by
      rw [chooseAlgorithm_of_named named ha]
      rfl
    have hverify : (Algorithm.hmac hash).verify key found.signed found.signature
        = .error fault := by
      rw [Algorithm.verify, unusable]
      rfl
    rw [(Text.any_isSurrogate_iff token).mpr whole, hread, if_neg Bool.false_ne_true, ok_bind,
      hchosen, ok_bind, hverify]
    rfl

/-- **A token is read, has a flaw, or cannot be checked.** -/
theorem read_cases (ha : Algorithm.ofName? algorithm = some (.hmac hash)) (key token : Text)
    (expect : Expectations) (now : Rat) :
    (∃ claims, read algorithm key expect now token = .ok claims)
      ∨ (∃ flaw, read algorithm key expect now token = .error (.token flaw))
      ∨ ∃ fault, Uncheckable algorithm key token fault := by
  by_cases hwhole : token.Whole
  case neg => exact Or.inr (Or.inr ⟨_, .token hwhole⟩)
  rw [read, authenticate, (Text.any_isSurrogate_iff token).mpr hwhole]
  simp only [Bool.false_eq_true, if_false]
  rcases liftFlaw_cases (Segments.read token) with ⟨segments, hsegments, hok⟩ | ⟨flaw, herror⟩
  case inr => exact Or.inr (Or.inl ⟨flaw, by rw [herror]; rfl⟩)
  rw [hok, ok_bind]
  rcases liftFlaw_cases (chooseAlgorithm algorithm segments.header) with
    ⟨a, hchosen, hok⟩ | ⟨flaw, herror⟩
  case inr => exact Or.inr (Or.inl ⟨flaw, by rw [herror]; rfl⟩)
  obtain ⟨hnamed, hknown⟩ := chooseAlgorithm_ok hchosen
  obtain rfl : a = .hmac hash := Option.some.inj (hknown.symm.trans ha)
  rw [hok, ok_bind]
  cases hsecret : secretBytes key with
  | error fault => exact Or.inr (Or.inr ⟨fault, .secret hwhole hsegments hnamed hsecret⟩)
  | ok secret =>
    have hverify : (Algorithm.hmac hash).verify key segments.signed segments.signature
        = .ok (hash.hmac secret segments.signed == segments.signature) := by
      rw [Algorithm.verify, hsecret]
      rfl
    rw [hverify, ok_bind]
    cases hash.hmac secret segments.signed == segments.signature with
    | false => exact Or.inr (Or.inl ⟨.signatureWrong, rfl⟩)
    | true =>
      rcases liftFlaw_cases (readClaims segments.payload) with ⟨claims, -, hok⟩ | ⟨flaw, herror⟩
      case inr => exact Or.inr (Or.inl ⟨flaw, by rw [if_pos rfl, pure_bind, herror]; rfl⟩)
      rw [if_pos rfl, pure_bind, hok, ok_bind]
      rcases liftFlaw_cases (checkClaims expect now claims) with ⟨_, -, hok⟩ | ⟨flaw, herror⟩
      · exact Or.inl ⟨claims, by rw [hok]; rfl⟩
      · exact Or.inr (Or.inl ⟨flaw, by rw [herror]; rfl⟩)

end Shared

end Token

end Portcullis
