import Portcullis.Main
import Portcullis.Proofs.Results
import Portcullis.Proofs.Text.Digits
import Portcullis.Proofs.Text.Utf8
import Portcullis.Proofs.Text.Casing
import Portcullis.Proofs.Text.Cutting
import Portcullis.Proofs.Text.Pairs
import Portcullis.Proofs.Text.Capitals
import Portcullis.Proofs.Bytes.Base64
import Portcullis.Proofs.Digest.Length
import Portcullis.Proofs.Number.Rounding
import Portcullis.Proofs.Number.Shortest
import Portcullis.Proofs.Json.Structure
import Portcullis.Proofs.Json.SameTree
import Portcullis.Proofs.Json.Numeral
import Portcullis.Proofs.Json.Number
import Portcullis.Proofs.Json.Quoting
import Portcullis.Proofs.Json.ReadBack
import Portcullis.Proofs.Json.Writable
import Portcullis.Proofs.Json.Scanning
import Portcullis.Proofs.Json.RoundTrip
import Portcullis.Proofs.Json.Octets
import Portcullis.Proofs.Json.Ascii
import Portcullis.Proofs.Signature.Canonical
import Portcullis.Proofs.Signature.Verify
import Portcullis.Proofs.Credential.Lookup
import Portcullis.Proofs.Authentication.Outcome
import Portcullis.Proofs.Authentication.Hmac
import Portcullis.Proofs.Authentication.Signing
import Portcullis.Proofs.Token.Reading
import Portcullis.Proofs.Token.Claims
import Portcullis.Proofs.Token.Minting
import Portcullis.Proofs.Token.Faults
import Portcullis.Proofs.Access.Verify
import Portcullis.Proofs.Access.Issue
import Portcullis.Proofs.Access.Settled
import Portcullis.Proofs.Access.Isolation
import Portcullis.Proofs.Principal.Grants
import Portcullis.Proofs.Endpoint.Privileged
import Portcullis.Proofs.Verification.Decision
import Portcullis.Proofs.Verification.Issue
import Portcullis.Proofs.Verification.Accepted
import Portcullis.Proofs.Verification.Raised
import Portcullis.Proofs.Verification.Faults
import Portcullis.Proofs.Verification.Parties
import Portcullis.Proofs.Authentication.Verification
import Portcullis.Proofs.Authentication.Escapes
import Portcullis.Proofs.Authentication.Failures
import Portcullis.Proofs.Endpoint.Course
import Portcullis.Proofs.Endpoint.Signed
import Portcullis.Proofs.Service.Building
import Portcullis.Proofs.Authentication.Secrecy
import Portcullis.Proofs.Authentication.Discreet
import Portcullis.Proofs.Authentication.Reports
import Portcullis.Proofs.Service.Boundary
import Portcullis.Proofs.Service.Completion
import Portcullis.Proofs.Access.Dated
import Portcullis.Proofs.Access.Workable
import Portcullis.Proofs.Service.Startup
import Portcullis.Proofs.Token.Lifetime
import Portcullis.Proofs.Token.Formed
import Portcullis.Proofs.Token.Typed
import Portcullis.Proofs.Access.Stages
import Portcullis.Proofs.Verification.Lasting
import Portcullis.Proofs.Peer.Distinguished
import Portcullis.Proofs.Peer.Sources
import Portcullis.Proofs.Authentication.Certificates
import Portcullis.Proofs.Authentication.Bearer
import Portcullis.Proofs.Principal.Order
import Portcullis.Proofs.Peer.Headers
import Portcullis.Proofs.Signature.Checking
import Portcullis.Proofs.Signature.Resigning
import Portcullis.Proofs.Redaction.Scrubbing
import Portcullis.Proofs.Redaction.Masking
import Portcullis.Proofs.Text.Latin
import Portcullis.Proofs.Peer.Status
import Portcullis.Proofs.Access.Unaddressed
import Portcullis.Proofs.Service.Readiness
import Portcullis.Proofs.Service.Forms
import Portcullis.Proofs.Verification.Orders
import Portcullis.Proofs.Service.Minting
import Portcullis.Proofs.Json.Increasing
import Portcullis.Proofs.Signature.Sorting
import Portcullis.Proofs.Verification.Actions
