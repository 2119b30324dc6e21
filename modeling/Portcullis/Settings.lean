/-
# Settings

What the environment says of the service and its trust.  Each field has a variable whose name, in
any letter case, is the field's behind `ENGINE_`; a field without a variable has its default.  All
secrets are optional here: which of them are needed depends on the endpoints.

Every field that does not hold is reported, in the order of the fields.
-/
import Portcullis.Fault
import Portcullis.Text.Blank
import Portcullis.Text.Casing
import Portcullis.Text.Scalar

namespace Portcullis

/-! ## 1. Fields -/

/-- Where a service runs. -/
inductive Stage where
  | dev
  | test
  | prod
deriving DecidableEq

/-- The name of a stage. -/
def Stage.name : Stage → Text
  | dev => "dev"
  | test => "test"
  | prod => "prod"

/-- The stage of a name. -/
def Stage.ofName? (name : Text) : Option Stage := [dev, test, prod].find? fun s => s.name == name

/-- The settings of one issuer of access tokens. -/
structure IssuerSettings where
  name : Text
  algorithm : Text
  secret : Option Text
  publicKeyFile : Option Text
  privateKeyFile : Option Text
  audience : Option Text

/-- The settings of verification tokens. -/
structure VerificationSettings where
  secret : Option Text
  codeSecret : Option Text
  issuer : Text
  audience : Option Text

/-- The settings of encrypted transport. -/
structure TransportSettings where
  serverKey : Option Text
  serverCertificate : Option Text
  clientAuthority : Option Text
  allowedHosts : Text
  trustProxy : Bool

/-- The settings of a service. -/
structure Settings where
  stage : Stage
  serviceName : Text
  logLevel : Text
  host : Text
  port : Int
  authService : IssuerSettings
  adminApi : IssuerSettings
  trustedIssuers : Text
  signatureSecret : Option Text
  staticToken : Option Text
  verification : VerificationSettings
  transport : TransportSettings

/-- The items of a list in a text: trimmed pieces between commas, empty ones left out. -/
def Settings.items (raw : Text) : List Text :=
  ((Text.splitOn (CodePoint.ofNat 0x2C) raw).map Text.strip).filter (!·.isEmpty)

/-! ## 2. Paths -/

/-- A path in its plain form: without empty and single-dot parts; the empty path is the dot.  Two
slashes at the beginning are kept, more are one. -/
def Settings.plainPath (raw : Text) : Text :=
  let slash := CodePoint.ofNat 0x2F
  let parts := (Text.splitOn slash raw).filter fun p => !p.isEmpty && p != ("." : Text)
  let leading := (raw.takeWhile (· == slash)).length
  let root := List.replicate (if leading = 2 then 2 else if leading = 0 then 0 else 1) slash
  let path := root ++ Text.join [slash] parts
  if path.isEmpty then "." else path

/-! ## 3. Reading -/

/-- The variables of an environment, in order. -/
abbrev Environment := List (Text × Text)

namespace Environment

/-- What the names of variables begin with, in small letters. -/
def mark : Text := "engine_"

/-- The value of the variable of a field: of two spellings the later one counts. -/
def field? (env : Environment) (name : Text) : Option Text :=
  (env.reverse.find? fun v => v.1.lower == mark ++ name).map (·.2)

/-- The text of a field, or its default. -/
def textField (env : Environment) (name default : Text) : Text := (env.field? name).getD default

/-- The path in a field. -/
def pathField? (env : Environment) (name : Text) : Option Text :=
  (env.field? name).map Settings.plainPath

/-- A field and what is wrong with it. -/
def problem (name kind message : Text) : List FieldProblem := [⟨name, kind, message⟩]

/-- The stage. -/
def stageField (env : Environment) : Except (List FieldProblem) Stage :=
  match env.field? "env" with
  | none => .ok .dev
  | some t => match Stage.ofName? t with
    | some s => .ok s
    | none =>
      .error (problem "env" "literal_error" "Input should be 'dev', 'test' or 'prod'")

/-- The port. -/
def portField (env : Environment) : Except (List FieldProblem) Int :=
  match env.field? "api_port" with
  | none => .ok 8080
  | some t => match Text.readInteger t with
    | .ok i => .ok i
    | .error .notAnInteger => .error (problem "api_port" "int_parsing"
        "Input should be a valid integer, unable to parse string as an integer")
    | .error .tooManyDigits => .error (problem "api_port" "int_parsing_size"
        "Unable to parse input string as an integer, exceeded maximum size")

/-- A switch that is off by default. -/
def switchField (env : Environment) (name : Text) : Except (List FieldProblem) Bool :=
  match env.field? name with
  | none => .ok false
  | some t => match Text.readSwitch? t with
    | some b => .ok b
    | none => .error (problem name "bool_parsing"
        "Input should be a valid boolean, unable to interpret input")

/-- What is wrong with a field, if anything is. -/
def problemsOf {α : Type} : Except (List FieldProblem) α → List FieldProblem
  | .ok _ => []
  | .error problems => problems

end Environment

/-- The settings with given values of the fields that may be wrong. -/
def Settings.build (env : Environment) (stage : Stage) (port : Int) (trustProxy : Bool) :
    Settings where
  stage := stage
  serviceName := env.textField "service_name" "server-engine"
  logLevel := env.textField "log_level" "INFO"
  host := env.textField "api_host" "0.0.0.0"
  port := port
  authService := {
    name := env.textField "access_token_issuer" "auth-service"
    algorithm := env.textField "jwt_alg" "HS256"
    secret := env.field? "jwt_secret"
    publicKeyFile := env.pathField? "jwt_public_key_file"
    privateKeyFile := env.pathField? "jwt_private_key_file"
    audience := env.field? "access_token_audience" }
  adminApi := {
    name := env.textField "admin_api_token_issuer" "admin-api"
    algorithm := env.textField "admin_api_jwt_alg" "HS256"
    secret := env.field? "admin_api_jwt_secret"
    publicKeyFile := env.pathField? "admin_api_public_key_file"
    privateKeyFile := none
    audience := env.field? "admin_api_token_audience" }
  trustedIssuers := env.textField "trusted_issuers" "auth_service"
  signatureSecret := env.field? "payload_signature_secret"
  staticToken := env.field? "static_token"
  verification := {
    secret := env.field? "verification_token_secret"
    codeSecret := env.field? "verification_token_otp_secret"
    issuer := env.textField "verification_token_issuer" "server-engine"
    audience := env.field? "verification_token_audience" }
  transport := {
    serverKey := env.pathField? "tls_server_key"
    serverCertificate := env.pathField? "tls_server_cert"
    clientAuthority := env.pathField? "tls_ca_cert"
    allowedHosts := env.textField "allowed_client_hosts" ""
    trustProxy := trustProxy }

/-- The settings that an environment describes. -/
def Settings.ofEnvironment (env : Environment) : Except Fault Settings :=
  match env.stageField, env.portField, env.switchField "tls_trust_proxy_headers" with
  | .ok stage, .ok port, .ok trustProxy => .ok (.build env stage port trustProxy)
  | stage, port, trustProxy => .error (.settings (Environment.problemsOf stage
      ++ Environment.problemsOf port ++ Environment.problemsOf trustProxy))

end Portcullis
