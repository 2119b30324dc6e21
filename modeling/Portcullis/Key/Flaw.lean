/-
# Why a key is refused

Each flaw of a key under an algorithm is a cause with a message.
-/
import Portcullis.Text.Basic

namespace Portcullis.Key

/-- What is wrong with a key under an algorithm. -/
inductive Flaw where
  /-- A shared secret is empty. -/
  | emptySecret
  /-- A shared secret is the text of a public or private key. -/
  | asymmetricSecret
  /-- A shared secret is the JSON form of a key. -/
  | structuredSecret
  /-- There is a key where none belongs. -/
  | unexpected
  /-- The text of a public key is not read. -/
  | unreadable
  /-- The key is of another kind. -/
  | wrongKind
  /-- The key is on another curve. -/
  | wrongCurve (found expected : Text)
deriving DecidableEq

/-- The message of a flaw; that a key is of another kind has none. -/
def Flaw.message : Flaw → Text
  | emptySecret => "HMAC key must not be empty."
  | asymmetricSecret =>
    ("The specified key is an asymmetric key or x509 certificate and " : Text)
      ++ "should not be used as an HMAC secret."
  | structuredSecret =>
    ("The specified key looks like a JWK and should not be used directly as an HMAC secret." : Text)
      ++ " Load it via PyJWK / HMACAlgorithm.from_jwk first."
  | unexpected => "When alg = \"none\", key value must be None."
  | unreadable => "Could not parse the provided public key."
  | wrongKind => []
  | wrongCurve found expected =>
    ("The key's curve '" : Text) ++ found ++ "' does not match the expected curve '" ++ expected
      ++ "' for this algorithm"

end Portcullis.Key
