/-
# Masking credentials

Reports keep at most four code points of a credential.  A member whose name, in small letters, is
one of the secret ones is masked; the members of objects are walked, the items of lists are not.
-/
import Portcullis.Json.Basic
import Portcullis.Text.Casing

namespace Portcullis

namespace Redaction

/-- The names of members that hold credentials. -/
def secretNames : List Text := [
  "authorization", "credentials", "otp", "secret", "signature", "token"]

/-- What stands for a credential that is masked as a whole. -/
def mask : Text := "***"

/-- The form of a text in a report: short ones are masked as a whole. -/
def ofText (t : Text) : Text := if t.length ≤ 8 then mask else t.take 4 ++ mask

end Redaction

namespace Json

mutual

/-- The form of a credential in a report. -/
def redact : Json → Json
  | .null => .null
  | .text t => .text (Redaction.ofText t)
  | .object ms => .object (redactMembers ms)
  | _ => .text Redaction.mask

/-- Each member in the form of a credential. -/
def redactMembers : Members → Members
  | [] => []
  | (k, v) :: rest => (k, redact v) :: redactMembers rest

end

mutual

/-- The form of data in a report: what stands under a secret name is masked. -/
def scrub : Json → Json
  | .object ms => .object (scrubMembers ms)
  | v => v

/-- Each member in the form of data. -/
def scrubMembers : Members → Members
  | [] => []
  | (k, v) :: rest =>
    (k, if Redaction.secretNames.contains k.lower then redact v else scrub v) :: scrubMembers rest

end

end Json

end Portcullis
