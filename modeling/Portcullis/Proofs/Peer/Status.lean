/-
# What a proxy says of a certificate

A proxy says of a certificate that it is valid with one word, and in whichever letter case.  What is
compared are the capitals of the word, and the capitals of the sharp `s` are two letters: of the
texts that octets can stand for, one more than the word itself is taken for it, namely the word with
a sharp `s` for its last two letters (`SaysValid`).  Any other text is reported as what went wrong.

**Main statement.**  `ofRequest_verified_iff`.
-/
import Portcullis.Proofs.Peer.Sources
import Portcullis.Proofs.Text.Latin
import Portcullis.Proofs.Text.Trimming

namespace Portcullis

namespace Peer

/-- A trimmed text that is taken to say that a certificate is valid. -/
inductive SaysValid : Text → Prop
  /-- The word in some letter case. -/
  | word {status : Text} (letters : status.asciiLower = "success") : SaysValid status
  /-- The word with a sharp `s` at its end. -/
  | sharp {start : Text} (letters : start.asciiLower = "succe") :
      SaysValid (start ++ [CodePoint.sharpS])

theorem isLatin_strip {t : Text} (h : t.IsLatin) : t.strip.IsLatin :=
  fun c hc => h c (Text.mem_of_mem_strip hc)

/-- **Latin text has the word for its capitals** if it is the word, or ends in a sharp `s` where the
word has two letters. -/
theorem upper_eq_success_iff {t : Text} (h : t.IsLatin) : t.upper = "SUCCESS" ↔ SaysValid t := by
  have hword : t.upper = "SUCCESS" ↔ t.folded = "succe" ++ [CodePoint.smallS, CodePoint.smallS] :=
    Text.upper_eq_iff_of_latin h (by decide) (by decide)
  rw [hword, Text.folded_eq_append_iff (by decide) (by decide)]
  constructor
  · rintro (hletters | ⟨start, rfl, hletters⟩)
    · exact .word hletters
    · exact .sharp hletters
  · intro hsaid
    cases hsaid with
    | word letters => exact Or.inl letters
    | sharp letters => exact Or.inr ⟨_, rfl, letters⟩

/-- **A trusted proxy has a peer verified** exactly if what it says is taken to say so; anything
else it says is the error that is reported. -/
theorem ofRequest_verified_iff {r : Request} (hunreported : r.tls = .null) {status : Text}
    (hstatus : r.header? verifiedHeader = some status) (hlatin : status.IsLatin) :
    ∃ peer, ofRequest true r = .ok (some peer)
      ∧ (peer.verified = true ↔ SaysValid status.strip)
      ∧ (peer.verified = true → peer = ofHosts (hostsInHeaders r))
      ∧ (peer.verified = false → peer = failed status) := by
  have hproxy : ofRequest true r = .ok (ofProxy r) := by rw [ofRequest, hunreported]; rfl
  rw [hproxy, ← upper_eq_success_iff (isLatin_strip hlatin)]
  by_cases hsuccess : status.strip.upper = "SUCCESS"
  · have hverified : ofProxy r = some (ofHosts (hostsInHeaders r)) :=
      ofProxy_iff.mpr ⟨rfl, status, hstatus, hsuccess, rfl⟩
    refine ⟨_, congrArg Except.ok hverified, ?_, fun _ => rfl, fun hfailed => ?_⟩
    · exact iff_of_true rfl hsuccess
    · cases hfailed
  · have hfailed : ofProxy r = some (failed status) := by simp [ofProxy, hstatus, hsuccess]
    refine ⟨_, congrArg Except.ok hfailed, ?_, fun hverified => ?_, fun _ => rfl⟩
    · exact iff_of_false Bool.false_ne_true hsuccess
    · cases hverified

/-- A request with nothing but what a proxy says of a certificate. -/
def statusRequest (status : Text) : Request where
  method := "GET"
  path := "/"
  query := []
  headers := [(verifiedHeader, status)]
  body := []
  tls := .null
  client := none
  identity := .absent

theorem ofRequest_statusRequest :
    ofRequest true (statusRequest " Success") = .ok (some (ofHosts []))
      ∧ ofRequest true (statusRequest "failed") = .ok (some (failed "failed")) := by
  constructor
  · obtain ⟨peer, hok, hverified, hvalid, -⟩ :=
      ofRequest_verified_iff (r := statusRequest " Success") rfl rfl (by decide)
    have hsaid : SaysValid (Text.strip " Success") := .word (by decide)
    have hhosts : hostsInHeaders (statusRequest " Success") = [] := by decide +kernel
    rw [hok, hvalid (hverified.mpr hsaid), hhosts]
  · obtain ⟨peer, hok, hverified, -, hfailed⟩ :=
      ofRequest_verified_iff (r := statusRequest "failed") rfl rfl (by decide)
    have hsaid : ¬ SaysValid (Text.strip "failed") := by
      rw [← upper_eq_success_iff (by decide)]
      decide
    rw [hok, hfailed (Bool.eq_false_iff.mpr (hsaid ∘ hverified.mp))]

/-- The word with a sharp `s` is taken for it, and is not the word in any letter case. -/
theorem ofRequest_sharpStatus :
    ofRequest true (statusRequest "succe\u00df") = .ok (some (ofHosts []))
      ∧ (statusRequest "succe\u00df").header? verifiedHeader = some ("succe\u00df" : Text)
      ∧ Text.IsLatin "succe\u00df"
      ∧ (Text.strip "succe\u00df").asciiLower ≠ "success" := by
  have hproxy : ofProxy (statusRequest "succe\u00df") = some (ofHosts []) := by decide +kernel
  exact ⟨congrArg Except.ok hproxy, by decide, by decide, by decide⟩

end Peer

end Portcullis
