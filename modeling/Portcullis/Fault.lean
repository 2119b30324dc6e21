/-
# Faults

Whatever can end an operation without its result.  Three kinds carry what the service itself says: a
refusal that a client sees (with its code, status and hint), an internal failure, and a
configuration that cannot work.  The others are the causes from below: a token, a key, an
environment, a value that does not hold, one of a few plain kinds, or a kind that only the one who
uses the service knows.

A fault is there to be reported, and a report can end in a fault itself: the data of a fault may be
such that it cannot be looked through, and a fault of an unknown kind may have no text.
-/
import Portcullis.Json.Printer
import Portcullis.Key.Flaw
import Portcullis.Token.Flaw

namespace Portcullis

/-! ## 1. Kinds -/

/-- The stages at which an access token is refused. -/
inductive Reason where
  | malformed
  | invalidSignature
  | expired
  | audienceMismatch
  | issuerNotTrusted
  | unknownIssuer
deriving DecidableEq

/-- The name of a stage in reports. -/
def Reason.name : Reason → Text
  | malformed => "malformed"
  | invalidSignature => "invalid_signature"
  | expired => "expired"
  | audienceMismatch => "audience_mismatch"
  | issuerNotTrusted => "issuer_not_trusted"
  | unknownIssuer => "unknown_issuer"

/-- The plain kinds of faults. -/
inductive Fault.Kind where
  /-- A value outside the domain of an operation. -/
  | value
  /-- A value of the wrong type. -/
  | type
  /-- A text with a lone surrogate where octets are needed. -/
  | encoding
  /-- Octets in no encoding where text is needed. -/
  | decoding
  /-- Nesting beyond the bound. -/
  | recursion
  /-- A number beyond its range. -/
  | overflow
  /-- Something that is not provided. -/
  | unsupported
  /-- A key that lacks an operation. -/
  | operation
  /-- A failure of a handler or hook. -/
  | runtime
  /-- An iteration that is over. -/
  | exhausted
  /-- A name that is not there. -/
  | lookup
  /-- A declaration that contradicts itself. -/
  | contradiction
  /-- A result with a text that has no octets. -/
  | rendering
  /-- A file that does not exist. -/
  | fileAbsent
  /-- A directory in the place of a file. -/
  | fileIsDirectory
  /-- A file in the place of a directory. -/
  | fileInPath
  /-- A path that the file system does not take. -/
  | filePath
  /-- A key or an algorithm of a kind that is not provided. -/
  | unknownAlgorithm
  /-- A sequence that ends too early. -/
  | index
  /-- A certificate of an unknown version. -/
  | certificateVersion
  /-- An extension that a certificate has twice. -/
  | extensionRepeated
  /-- An alternative name of a kind that is not provided. -/
  | nameKind
deriving DecidableEq

/-- The name of a plain kind in reports. -/
def Fault.Kind.name : Fault.Kind → Text
  | value => "ValueError"
  | type => "TypeError"
  | encoding => "UnicodeEncodeError"
  | decoding => "UnicodeDecodeError"
  | recursion => "RecursionError"
  | overflow => "OverflowError"
  | unsupported => "NotImplementedError"
  | operation => "AttributeError"
  | runtime => "RuntimeError"
  | exhausted => "StopIteration"
  | lookup => "KeyError"
  | contradiction => "AssertionError"
  | rendering => "PydanticSerializationError"
  | fileAbsent => "FileNotFoundError"
  | fileIsDirectory => "IsADirectoryError"
  | fileInPath => "NotADirectoryError"
  | filePath => "OSError"
  | unknownAlgorithm => "UnsupportedAlgorithm"
  | index => "IndexError"
  | certificateVersion => "InvalidVersion"
  | extensionRepeated => "DuplicateExtension"
  | nameKind => "UnsupportedGeneralNameType"

/-- One field of the settings that does not hold: its name, the kind of the problem and a message.
-/
structure FieldProblem where
  field : Text
  kind : Text
  message : Text
deriving DecidableEq

/-- What is told of a field that does not hold. -/
def FieldProblem.summary (p : FieldProblem) : Json := .object [
  ("type", .text p.kind), ("loc", .texts [p.field]), ("msg", .text p.message)]

/-! ## 2. Faults -/

/-- Whatever can end an operation without its result.  The data of a fault is what is found in it,
or the fault in which looking through it ends. -/
inductive Fault where
  /-- A refusal that the client sees as a status, a code and a hint. -/
  | web (message code : Text) (status : Int) (data : Except Fault Json) (hint : Json)
      (cause : Option Fault)
  /-- An internal failure. -/
  | engine (message : Text) (data : Except Fault Json) (hint : Json) (cause : Option Fault)
  /-- A configuration that cannot work. -/
  | configuration (message : Text) (data : Except Fault Json) (hint : Json) (cause : Option Fault)
  /-- An access token that is refused at a stage. -/
  | access (reason : Reason) (message : Text)
  /-- A compact token that is refused. -/
  | token (flaw : Token.Flaw)
  /-- A key that does not fit its algorithm. -/
  | key (flaw : Key.Flaw)
  /-- Settings that do not hold. -/
  | settings (problems : List FieldProblem)
  /-- Any other value that does not hold, with what is wrong with it. -/
  | invalid (message : Text) (problems : Json)
  /-- A fault of a plain kind. -/
  | plain (kind : Fault.Kind) (message : Text)
  /-- A fault of an unknown kind: the name of the kind, and what writing its text and its one-line
  form ends in. -/
  | unknown (kind : Text) (text line : Except Fault Text)

instance : Inhabited Fault := ⟨.plain .value []⟩

namespace Fault

/-- A refusal without a hint or cause; no data is shown for an empty list of data. -/
def refusal (message code : Text) (status : Int) (data : Members) : Fault :=
  .web message code status (.ok (if data.isEmpty then .null else .object data)) .null none

/-- A refusal of a client whose identity is not established. -/
def unauthorized (message : Text) (data : Members) : Fault :=
  refusal message "unauthorized" 401 data

/-- A configuration that cannot work, without further data. -/
def misconfigured (message : Text) : Fault := .configuration message (.ok .null) .null none

/-- An internal failure with data. -/
def internal (message : Text) (data : Members) : Fault :=
  .engine message (.ok (.object data)) .null none

/-- A fault of a plain kind without a message of its own. -/
def ofKind (kind : Kind) : Fault := .plain kind []

/-- The name of the kind of a fault in reports. -/
def name : Fault → Text
  | web .. => "WebError"
  | engine .. => "EngineError"
  | configuration .. => "ConfigurationError"
  | access .. => "TokenValidationError"
  | token flaw => flaw.kind.name
  | key _ => "InvalidKeyError"
  | settings _ | invalid .. => "ValidationError"
  | plain kind _ => kind.name
  | unknown kind .. => kind

/-- The message of a fault; a name that is not there is quoted.  A fault without a text has an empty
one. -/
def message : Fault → Text
  | web m .. | engine m .. | configuration m .. | access _ m | invalid m _ => m
  | token flaw => flaw.message
  | key flaw => flaw.message
  | settings _ => []
  | plain .lookup m => m.quoted
  | plain _ m => m
  | unknown _ text _ => text.toOption.getD []

/-- The text of a fault, as far as it can be written. -/
def text : Fault → Except Fault Text
  | unknown _ text _ => text
  | f => .ok f.message

/-- What a fault was built with, as it stands in reports: of a missing claim only its name. -/
def argument : Fault → Text
  | plain _ m => m
  | token (.claimAbsent name) => name
  | f => f.message

/-- The one-line form of a fault in reports, as far as it can be written: its kind and, quoted, its
message. -/
def shown : Fault → Except Fault Text
  | unknown _ _ line => line
  | f => .ok (f.name ++ "(" ++ f.argument.quoted ++ ")")

/-- Whether the client sees the fault as a refusal. -/
def isWeb : Fault → Bool
  | web .. => true
  | _ => false

/-- Whether the fault is a configuration that cannot work. -/
def isConfiguration : Fault → Bool
  | configuration .. => true
  | _ => false

/-- The fault that leaves a coroutine in which a fault arises.  The end of an iteration means
something else to whoever runs a coroutine, and does not leave it as such. -/
def leavingCoroutine : Fault → Fault
  | plain .exhausted _ => plain .runtime "coroutine raised StopIteration"
  | f => f

end Fault

end Portcullis
