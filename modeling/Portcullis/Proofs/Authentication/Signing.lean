/-
# A signed object is accepted

An object that is signed can be sent with its members in any order: the body is read as that object,
and the signature in it is that of the others of its members.

**Main statement.**  `authenticate_signObject`.
-/
import Portcullis.Proofs.Authentication.Hmac
import Portcullis.Proofs.Json.Octets

namespace Portcullis.Authentication

open Json Signature

/-- A signed object has unique names. -/
theorem uniqueNames_signObject {secret : Text} {ms signed : Members}
    (names : UniqueNames (.object ms)) (h : signObject secret ms = .ok signed) :
    UniqueNames (.object signed) := by
  obtain ⟨key, message, -, -, rfl⟩ := (signObject_eq_ok_iff secret ms signed).mp h
  exact names.set field (.atom rfl)

/-- A signed object has a text. -/
theorem writable_signObject {secret : Text} {ms signed : Members}
    (names : UniqueNames (.object ms)) (h : signObject secret ms = .ok signed) :
    Writable maxDepth (.object signed) := by
  obtain ⟨key, message, -, hform, rfl⟩ := (signObject_eq_ok_iff secret ms signed).mp h
  have hfield : Text.Whole field := by
    unfold Text.Whole
    decide
  have hothers : Writable maxDepth (.object (Members.erase field ms)) :=
    ((canonical_standard_iff ms message).mp hform).1.mono sortingDepth_le_maxDepth
  refine .set_text names.names hothers hfield ?_
  intro c hc
  exact CodePoint.isSurrogate_of_lt (Nat.lt_of_le_of_lt (Text.mem_hex hc).1 (by decide))

/-- **What is signed is accepted.**  For an object that is signed under a secret, and for every
value that is the signed object in some order of its members: the compact text of the value has
octets, and a request with that body that is no `GET` has the value as its body and is the
principal's. -/
theorem authenticate_signObject {secret : Text} {ms signed : Members} {v : Json}
    (names : UniqueNames (.object ms)) (hsecret : secret ≠ [])
    (hsigned : signObject secret ms = .ok signed) (hv : SameTree (.object signed) v) :
    ∃ body, (print .unicode v).utf8? = some body
      ∧ ∀ (r : Request) (trust : Trust) (now : Instant), r.method ≠ "GET" → r.body = body →
        r.jsonBody = v
          ∧ (authenticate trust (.hmac (some secret) false) r now).outcome
            = .ok { kind := .hmac } := by
  have hnames : UniqueNames (.object signed) := uniqueNames_signObject names hsigned
  have hwritable : Writable maxDepth (.object signed) := writable_signObject names hsigned
  have hvnames : UniqueNames v := hv.uniqueNames hnames
  have hvwritable : Writable maxDepth v := (Writable.congr hnames hv).mp hwritable
  obtain ⟨ns, rfl⟩ := hv.exists_object
  obtain ⟨body, hbody⟩ := hvwritable.exists_utf8?
  refine ⟨body, hbody, ?_⟩
  intro r trust now hmethod hr
  have hjson : r.jsonBody = .object ns := by
    rw [Request.jsonBody, hr, readBytes_object hvwritable hvnames hbody]
  refine ⟨hjson, ?_⟩
  have heffective : trust.effectiveSecret (some secret) = some secret :=
    (effectiveSecret_eq_some_iff trust (some secret) secret).mpr ⟨hsecret, Or.inl rfl⟩
  obtain ⟨key, message, hkey, hform, rfl⟩ := (signObject_eq_ok_iff secret ms signed).mp hsigned
  -- The others of its members are those of the object that was signed.
  have hothers :
      SameTree (.object (Members.erase field ms)) (.object (Members.erase field ns)) := by
    have herase := hv.erase field
    rwa [Members.erase_set] at herase
  have hpayload : signedPayload r = .object ns := by
    rw [signedPayload, if_neg hmethod, hjson]
  have hsignature : Members.get? field ns
      = some (.text (Bytes.hex (Hash.sha256.hmac key message))) :=
    hv.get?_text hnames (Members.get?_set_self field _ ms)
  have hcarries : Carries secret r false := .standard hkey hpayload hsignature
    (Hash.hex_hmac_ne_nil .sha256 key message) (canonical_standard_congr names hothers hform)
    (Text.asciiLower_hex _)
  rcases outcome_authenticate_hmac heffective false r now with ⟨-, hok⟩ | ⟨hno, -⟩
  · exact hok
  · exact absurd hcarries hno

/-- A signed object that is sent in the reverse order. -/
theorem authenticate_signObject_reverse :
    ∃ signed body, signObject "secret" sampleOrder = .ok signed
      ∧ (print .unicode (.object signed.reverse)).utf8? = some body
      ∧ ∀ (r : Request) (trust : Trust) (now : Instant), r.method ≠ "GET" → r.body = body →
        r.jsonBody = .object signed.reverse
          ∧ (authenticate trust (.hmac (some "secret") false) r now).outcome
            = .ok { kind := .hmac } := by
  have hform : canonical .standard (.json (.object sampleOrder)) = .ok (Bytes.ofAscii
      "\x7b\"item\":\x7b\"price\":true,\"signature\":\"inner\"\x7d,\"quantity\":1\x7d") := by rfl
  have hkey : Text.utf8? "secret" = some (Bytes.ofAscii "secret") := by decide
  obtain ⟨signed, hsigned⟩ : ∃ signed, signObject "secret" sampleOrder = .ok signed :=
    ⟨_, (signObject_eq_ok_iff _ _ _).mpr ⟨_, _, hkey, hform, rfl⟩⟩
  have hreverse : SameTree (.object signed) (.object signed.reverse) :=
    .object (List.forall₂_same.mpr fun m _ => .value m.1 (.refl m.2)) signed.reverse_perm.symm
  obtain ⟨body, hbody, haccepts⟩ :=
    authenticate_signObject (by decide) (by decide) hsigned hreverse
  exact ⟨signed, body, hsigned, hbody, haccepts⟩

end Portcullis.Authentication
